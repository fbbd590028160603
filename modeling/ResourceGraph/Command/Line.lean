/-
**Command lines.**

Reading a command line has two parts: the words before the command, and those after it. In each part
there are switches, long or short, with their values, and plain words. A value follows its switch as
the next word, or in the same word after an equals sign or, for a short switch, at once. After two
hyphens every word is plain.

* `LinePart.read`: the words of a part, up to a command;
* `LinePart.finish`: what holds at the end of a part.
-/

import ResourceGraph.Command.Switch
import ResourceGraph.Text.Search

namespace ResourceGraph

/-- Why a command line is not carried out. -/
inductive Refusal where
  | unknownArgument
  | invalidValue
  | tooManyValues
  | conflict
  | missingArgument
  | unknownCommand
  | missingCommand
  /-- Help is asked for, about a command or about all. -/
  | help (about : Option CommandName)
  /-- Nothing is asked for. -/
  | nothing
  /-- The version is asked for, of a command or of the program. -/
  | version (of : Option CommandName)
deriving DecidableEq, Repr

/-- A refusal that arises after a command. -/
def Refusal.within (command : CommandName) : Refusal → Refusal
  | help none => help (some command)
  | version none => version (some command)
  | other => other

/-- What a part of a command line knows: its switches, how many plain words it takes, and whether a
command follows. -/
structure LinePart where
  switches : List Switch
  plainWords : Nat
  takesCommand : Bool
deriving DecidableEq, Repr

/-- What has been read of a part. -/
structure Given where
  /-- The switches with their values, the latest first. -/
  switches : List (Switch × String)
  words : List String
  /-- A switch whose value is still to be checked, or still to come. -/
  pending : Option (Switch × Option String)
  /-- Every word is plain from here on. -/
  onlyWords : Bool
deriving DecidableEq, Repr

namespace Given

/-- Nothing has been read. -/
def empty : Given := ⟨[], [], none, false⟩

/-- Whether a switch is given. -/
def has (given : Given) (switch : Switch) : Bool :=
  given.switches.any fun entry => entry.1 == switch

/-- The values of a switch, in order. -/
def valuesOf (given : Given) (switch : Switch) : List String :=
  (given.switches.reverse.filter fun entry => entry.1 == switch).map (·.2)

/-- Adds a switch with its value. -/
def add (given : Given) (switch : Switch) (value : String) : Except Refusal Given :=
  if given.has switch && !switch.isRepeatable then .error .conflict
  else if !switch.accepts value then .error .invalidValue
  else .ok { given with switches := (switch, value) :: given.switches }

/-- Checks the switch that is still to be checked. -/
def settle (given : Given) : Except Refusal Given :=
  match given.pending with
  | none => .ok given
  | some (_, none) => .error .invalidValue
  | some (switch, some value) => { given with pending := none }.add switch value

/-- Adds a switch with a value of its own, which is checked at once. -/
def addWith (given : Given) (switch : Switch) (value : String) : Except Refusal Given := do
  (← given.settle).add switch value

/-- Adds a switch whose value is the next word. -/
def await (given : Given) (switch : Switch) : Except Refusal Given := do
  return { ← given.settle with pending := some (switch, none) }

/-- Adds a switch without a value; two of them are answered at once. -/
def mark (given : Given) (switch : Switch) : Except Refusal Given := do
  let given ← given.settle
  match switch with
  | .help => .error (.help none)
  | .version => .error (.version none)
  | _ => given.add switch ""

/-- Whether the next word is a value. -/
def isAwaiting (given : Given) : Bool :=
  match given.pending with
  | some (_, none) => true
  | _ => false

end Given

namespace LinePart

/-- The part before the command. -/
def outer : LinePart := ⟨Switch.shared, 0, true⟩

/-- The part after a command. -/
def inner (command : CommandName) : LinePart :=
  ⟨Switch.ofCommand command ++ Switch.shared, if command = .list then 0 else 1, false⟩

/-! ### Words -/

/-- Why a plain word is one too many. -/
def surplus (part : LinePart) (given : Given) (word : String) : Refusal :=
  if part.takesCommand then
    if given.onlyWords && CommandName.isKnown word then .unknownArgument else .unknownCommand
  else .unknownArgument

/-- A plain word. -/
def readWord (part : LinePart) (given : Given) (word : String) : Except Refusal Given :=
  if given.words.length < part.plainWords then do
    let given ← given.settle
    return { given with words := given.words ++ [word] }
  else .error (part.surplus given word)

/-- A long switch, perhaps with a value in the same word. -/
def readLong (part : LinePart) (given : Given) (name : String) (value : Option String) :
    Except Refusal Given :=
  match part.switches.find? fun switch => switch.long == name with
  | none => .error .unknownArgument
  | some switch =>
    match switch.values?, value with
    | some _, some value => given.addWith switch value
    | some _, none => given.await switch
    | none, some _ => .error .tooManyValues
    | none, none => given.mark switch

/-- Short switches in one word; the first that takes a value takes the rest of the word. -/
def readShort (part : LinePart) (given : Given) : List Char → Except Refusal Given
  | [] => .ok given
  | c :: rest =>
    match part.switches.find? fun switch => switch.short? == some c with
    | none => .error .unknownArgument
    | some switch =>
      if switch.values?.isSome then
        match rest with
        | [] => given.await switch
        | '=' :: value => given.addWith switch (String.ofList value)
        | value => given.addWith switch (String.ofList value)
      else do readShort part (← given.mark switch) rest

/-- The name of a long switch, and the value after an equals sign. -/
def splitLong (chars : List Char) : String × Option String :=
  let name := chars.takeWhile (· != '=')
  (String.ofList name,
    match chars.drop name.length with
    | _ :: value => some (String.ofList value)
    | [] => none)

/-- A word that does not start with a hyphen, or is only a hyphen: the value of the switch before
it, or a plain word. -/
def readPlain (part : LinePart) (given : Given) (word : String) : Except Refusal Given :=
  match given.pending with
  | some (switch, none) => .ok { given with pending := some (switch, some word) }
  | _ => part.readWord given word

/-- One word. -/
def readOne (part : LinePart) (given : Given) (word : String) : Except Refusal Given :=
  if given.onlyWords then part.readWord given word
  else
    match word.toList with
    | ['-', '-'] => .ok { given with onlyWords := true }
    | '-' :: '-' :: rest =>
      let (name, value) := splitLong rest
      part.readLong given name value
    | '-' :: c :: rest => part.readShort given (c :: rest)
    | _ => part.readPlain given word

/-! ### Whole parts -/

/-- Whether a word ends the part because it names a command. -/
def endsAt (part : LinePart) (given : Given) (word : String) : Bool :=
  part.takesCommand && !given.onlyWords && !given.isAwaiting && CommandName.isKnown word

/-- The words of a part, and those from a command on. -/
def read (part : LinePart) (given : Given) : List String → Except Refusal (Given × List String)
  | [] => .ok (given, [])
  | word :: rest =>
    if part.endsAt given word then .ok (given, word :: rest)
    else do read part (← part.readOne given word) rest

/-- The end of a part: the last switch is checked, and so are the values of variables that stand for
switches that are not given. -/
def finish (part : LinePart) (environment : Environment) (given : Given) :
    Except Refusal Given := do
  let given ← given.settle
  let isFaulty (switch : Switch) : Bool :=
    !given.has switch && (switch.valueIn? environment).any fun value => !switch.accepts value
  if part.switches.any isFaulty then throw .invalidValue
  return given

end LinePart

end ResourceGraph
