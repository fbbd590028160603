/-
**The program.**

The surroundings of a session: the terminal, the files, the clock and the network. Everything that a
command does is decided in its session; here its steps are carried out.
-/

import ResourceGraph.Command.Execution
import ResourceGraph.Http.Encoding
import Std.Async.DNS
import Std.Async.TCP
import Std.Time.DateTime.Timestamp

namespace ResourceGraph.Program

/-! ### What the program sees -/

/-- The variables of the environment, from their text. -/
def variablesOf (text : String) : List (String × String) :=
  (Text.pieces '\x00' text).filterMap fun entry =>
    let name := entry.toList.takeWhile (· != '=')
    if name.isEmpty then none
    else some (String.ofList name, String.ofList (entry.toList.drop (name.length + 1)))

/-- The variables that matter when not all of them can be listed. -/
def knownVariables : List String :=
  Switch.shared.filterMap (·.variableName?) ++
    ["HOME", "XDG_DATA_HOME", "CLICOLOR", "CLICOLOR_FORCE", "NO_COLOR"]

/-- The environment. -/
def environment : IO Environment := do
  try
    let bytes ← IO.FS.readBinFile "/proc/self/environ"
    return ⟨variablesOf ((Text.ofBytes? bytes.toList).getD "")⟩
  catch _ =>
    let values ← knownVariables.mapM fun name => return (name, ← IO.getEnv name)
    return ⟨values.filterMap fun entry => entry.2.map fun value => (entry.1, value)⟩

/-- What a path leads to. -/
def entryAt (path : String) : IO (Option FileEntry) := do
  try
    let bytes ← IO.FS.readBinFile path
    return some (.file bytes.toList)
  catch _ =>
    try
      let _ ← (← IO.FS.realPath path).readDir
      return some .directory
    catch _ => return none

/-- The tree with what a path leads to. -/
def observe (tree : FileTree) (path : String) : IO FileTree := do
  match ← entryAt path with
  | some entry => return tree.add path entry
  | none => return tree

/-- The names in a directory. -/
def namesIn (path : String) : IO (List String) := do
  try
    return (← (← IO.FS.realPath path).readDir).toList.map (·.fileName)
  catch _ => return []

/-- The tree with the documents of a library. -/
def observeLibrary (tree : FileTree) (root : String) : IO FileTree := do
  let mut tree ← observe tree root
  for name in ← namesIn root do
    let path := Path.join root name
    tree ← observe tree path
    for file in Library.nestedFiles do
      tree ← observe tree (Path.join path file)
  return tree

/-- The files that a command line can lead to. -/
def observeFor (tree : FileTree) (environment : Environment) (words : List String) :
    IO FileTree := do
  match Arguments.ofWords environment words with
  | .error _ => return tree
  | .ok arguments =>
    let tree ← match arguments.command with
      | .validate (.file path) => observe tree path
      | _ => pure tree
    observeLibrary tree (arguments.workplace tree environment false).library.root

/-! ### What the program does -/

/-- The wording of a failed file operation. -/
def fileFailure (error : IO.Error) : String :=
  match error with
  | .noFileOrDirectory .. => FileTree.WriteFailure.notFound.message
  | .inappropriateType .. => FileTree.WriteFailure.isDirectory.message
  | other => toString other

/-- A new identifier, of the kind that is made at random. -/
def newIdentifier : IO RunId := do
  let bytes ← IO.getRandomBytes 16
  let marked := bytes.toList.zipIdx.map fun (byte, index) =>
    if index = 6 then byte.toNat % 16 + 64
    else if index = 8 then byte.toNat % 64 + 128
    else byte.toNat
  let value := marked.foldl (fun value byte => value * 256 + byte) 0
  return ⟨Fin.ofNat (Nat.pow 2 128) value⟩

/-- The time. -/
def time : IO Instant := do
  let now ← Std.Time.Timestamp.now
  return .ofSeconds now.val.second.val now.val.nano.val.toNat

/-- The bytes that come on a connection, up to its end. The fuel bounds the number of pieces. -/
def receive (client : Std.Async.TCP.Socket.Client) (fuel : Nat) (received : ByteArray) :
    Std.Async.Async ByteArray := do
  match fuel with
  | 0 => return received
  | fuel + 1 =>
    match ← client.recv? 65536 with
    | none => return received
    | some bytes => receive client fuel (received ++ bytes)

/-- The address of a socket. -/
def socketAddress (address : Std.Net.IPAddr) (port : Nat) : Std.Net.SocketAddress :=
  match address with
  | .v4 address => .v4 ⟨address, UInt16.ofNat port⟩
  | .v6 address => .v6 ⟨address, UInt16.ofNat port⟩

/-- Delivers a request to a host in plain text. -/
def deliverPlain (request : WireRequest) : Std.Async.Async Delivery := do
  let port := request.url.connectPort
  let addresses ← Std.Async.DNS.getAddrInfo request.url.host (toString port)
  match addresses[0]? with
  | none => return .error "the host has no address"
  | some address =>
    let client ← Std.Async.TCP.Socket.Client.mk
    client.connect (socketAddress address port)
    client.send request.text.toUTF8
    let bytes ← receive client (Nat.pow 2 20) ByteArray.empty
    return WireAnswer.ofBytes 16 bytes.toList

/-- Delivers a request. -/
def deliver (request : WireRequest) : IO Delivery := do
  if request.url.scheme != "http" then return .error "encrypted connections are not supported"
  try
    (deliverPlain request).block
  catch error => return .error (toString error)

/-- How log entries are written, and whether the details are. -/
structure LogStyle where
  verbose : Bool
  json : Bool

/-- A log entry as a line. -/
def LogStyle.line (style : LogStyle) (time : Instant) (entry : LogEntry) : String :=
  if style.json then
    (Json.object [("timestamp", .string time.text), ("level", .string entry.level.name),
      ("fields", .object [("message", .string entry.message)])]).compact
  else time.text ++ " " ++ entry.level.name ++ " " ++ entry.message

/-- Writes a log entry, if it is wanted. -/
def writeEntry (style : LogStyle) (entry : LogEntry) : IO Unit := do
  if entry.level = .debug && !style.verbose then return
  IO.eprintln (style.line (← time) entry)

/-- Carries out a step of a conversation. -/
def performWire (style : LogStyle) : (step : WireStep) → IO step.Answer
  | .deliver request => deliver request
  | .wait milliseconds => IO.sleep (UInt32.ofNat milliseconds)
  | .log entry => writeEntry style entry

/-- Reads a line from the standard input. -/
def readLine : IO (Except String String) := do
  try
    return .ok (← (← IO.getStdin).getLine)
  catch error => return .error (toString error)

/-- Writes a file. -/
def writeFile (path text : String) : IO (Except String Unit) := do
  try
    IO.FS.writeFile path text
    return .ok ()
  catch error => return .error (fileFailure error)

/-- Prints a text at once. -/
def print (stream : IO.FS.Stream) (text : String) : IO Unit := do
  stream.putStr text
  stream.flush

/-- Carries out a step of a session. -/
def performStep (style : LogStyle) : (step : SessionStep) → IO step.Answer
  | .output text => do print (← IO.getStdout) text
  | .complain text => do print (← IO.getStderr) text
  | .readLine => readLine
  | .writeFile path text => writeFile path text
  | .takeTime => time
  | .identify => newIdentifier
  | .wire step => performWire style step

/-- Carries out a session. -/
def perform {α : Type} (style : LogStyle) : Session α → IO α
  | .done result => return result
  | .ask step next => do
    let answer ← performStep style step
    perform style (next answer)

/-- How a command line asks for log entries. -/
def logStyle (environment : Environment) (words : List String) : LogStyle :=
  match Arguments.ofWords environment words with
  | .ok arguments => ⟨arguments.verbose, arguments.jsonLog⟩
  | .error _ => ⟨false, false⟩

end ResourceGraph.Program

open ResourceGraph Program in
/-- The program. -/
def main (words : List String) : IO UInt32 := do
  let directory := (← IO.currentDir).toString
  let given ← environment
  let tree ← observe (.empty directory) Environment.fileName
  let tree ← observe tree Library.localDirectory
  let extended := (given.load tree none).1
  let tree ← observeFor tree extended words
  let terminal ← (← IO.getStdout).isTty
  let code ← perform (logStyle extended words) (carryOut tree given terminal words)
  return UInt32.ofNat code.number
