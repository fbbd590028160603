/-
**Messages as bytes.**

How a request is written on a connection that is used once, and how the answer to it is read: a
status line, headers, an empty line, and a body that is as long as a header says, comes in chunks,
or goes on to the end.
-/

import ResourceGraph.Files.Tree
import ResourceGraph.Http.Message
import ResourceGraph.Text.Hex

namespace ResourceGraph

/-- The host that a request is for, with its port if that is not the standing one. -/
def Url.hostText (url : Url) : String :=
  url.host ++ (url.port.map fun port => ":" ++ toString port).getD ""

/-- The port that a connection is made to. -/
def Url.connectPort (url : Url) : Nat :=
  url.port.getD ((Url.defaultPorts.lookup url.scheme).getD 80)

namespace WireRequest

/-- The headers that describe the body and the connection. -/
def framing (request : WireRequest) : Headers :=
  [("host", request.url.hostText), ("connection", "close")] ++
    match request.body with
    | some body => [("content-length", toString body.utf8ByteSize)]
    | none =>
      if request.method = .get || request.method = .delete then []
      else [("content-length", "0")]

/-- A request as text. -/
def text (request : WireRequest) : String :=
  request.method.name ++ " " ++ request.url.target ++ " HTTP/1.1\r\n" ++
    String.join ((request.framing ++ request.headers).map fun header =>
      header.1 ++ ": " ++ header.2 ++ "\r\n") ++
    "\r\n" ++ request.body.getD ""

end WireRequest

namespace WireAnswer

/-- The characters of bytes that stand for one character each. -/
def latin (bytes : List UInt8) : List Char :=
  bytes.map fun byte => Char.ofNat byte.toNat

/-- The first line, and what follows its line break. -/
def takeLine? : List UInt8 → Option (List UInt8 × List UInt8)
  | [] => none
  | 13 :: 10 :: rest => some ([], rest)
  | byte :: rest => (takeLine? rest).map fun line => (byte :: line.1, line.2)

/-- The status in the first line of an answer. -/
def status? (line : List UInt8) : Option Nat := do
  let rest ← Text.afterPrefix? "HTTP/1.".toList (latin line)
  match rest.drop 1 with
  | ' ' :: rest =>
    let digits := rest.takeWhile Char.isDigit
    if digits.length = 3 then some (Text.digitsValue digits) else none
  | _ => none

/-- The header in a line. -/
def header (line : List UInt8) : String × String :=
  let chars := latin line
  let name := chars.takeWhile (· != ':')
  (String.ofList name, Headers.trimmed (String.ofList (chars.drop (name.length + 1))))

/-- The headers up to an empty line, and what follows it. The fuel bounds their number. -/
def takeHeaders? : Nat → List UInt8 → Option (Headers × List UInt8)
  | 0, _ => none
  | fuel + 1, bytes => do
    let (line, rest) ← takeLine? bytes
    if line.isEmpty then return ([], rest)
    let (headers, rest) ← takeHeaders? fuel rest
    return (header line :: headers, rest)

/-- A body in chunks; `none` if it breaks off. The fuel bounds their number. -/
def unchunked? : Nat → List UInt8 → Option (List UInt8)
  | 0, _ => none
  | fuel + 1, bytes => do
    let (line, rest) ← takeLine? bytes
    let size ← Text.hexNumber? ((latin line).takeWhile fun c => (Text.hexValue? c).isSome)
    if size = 0 then return []
    if rest.length < size + 2 then none
    return rest.take size ++ (← unchunked? fuel (rest.drop (size + 2)))

/-- The bytes of a body; `none` if it breaks off. -/
def bodyBytes? (headers : Headers) (bytes : List UInt8) : Option (List UInt8) :=
  if (headers.get? "transfer-encoding").isSome then unchunked? (bytes.length + 1) bytes
  else
    match headers.get? "content-length" with
    | none => some bytes
    | some text =>
      let length := Text.digitsValue (text.toList.takeWhile Char.isDigit)
      if bytes.length < length then none else some (bytes.take length)

/-- The text of a body. -/
def bodyText (headers : Headers) (bytes : List UInt8) : Except String String :=
  match bodyBytes? headers bytes with
  | none => .error "the body breaks off"
  | some body =>
    match Text.ofBytes? body with
    | some text => .ok text
    | none => .error "the body is no text"

/-- The answer in the bytes that came on a connection; interim ones are passed over. The fuel bounds
the number of answers. -/
def ofBytes : Nat → List UInt8 → Delivery
  | 0, _ => .error "no answer"
  | fuel + 1, bytes =>
    match takeLine? bytes with
    | none => .error "no answer"
    | some (line, rest) =>
      match status? line, takeHeaders? (rest.length + 1) rest with
      | some status, some (headers, rest) =>
        if status < 200 && status != 101 then ofBytes fuel rest
        else .ok ⟨status, headers, bodyText headers rest⟩
      | _, _ => .error "the answer cannot be read"

end WireAnswer

end ResourceGraph
