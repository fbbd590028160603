/-
**Addresses.**

An address has a scheme, a host, perhaps a port, the segments of a path and perhaps a query. Reading
one takes backslashes for slashes, follows the segments `.` and `..`, encodes what must not stand in
an address and drops a fragment.

* `Url.ofText?`: an absolute address of one of the two schemes;
* `Url.withQuery`: more fields in the query;
* `Url.follow?`: the address that a reference from another one leads to.
-/

import ResourceGraph.Http.Percent
import ResourceGraph.Text.Search

namespace ResourceGraph

/-- An address of a service. -/
structure Url where
  scheme : String
  host : String
  port : Option Nat
  /-- The parts of the path after its first slash. -/
  segments : List String
  query : Option String
deriving DecidableEq, Repr

namespace Url

/-! ### Reading -/

/-- The schemes with their ports. -/
def defaultPorts : List (String × Nat) :=
  [("http", 80), ("https", 443)]

/-- Characters that mean nothing anywhere in an address. -/
def isIgnored (c : Char) : Bool :=
  c == '\t' || c == '\n' || c == '\r'

/-- Characters that mean nothing at both ends of an address. -/
def isMargin (c : Char) : Bool :=
  c.toNat ≤ 0x20

/-- The characters of an address that mean something. -/
def essential (text : String) : List Char :=
  let chars := text.toList.dropWhile isMargin
  (chars.reverse.dropWhile isMargin).reverse.filter fun c => !isIgnored c

/-- The two ways to write a slash. -/
def isSlash (c : Char) : Bool :=
  c == '/' || c == '\\'

/-- Characters that a scheme may hold. -/
def isInScheme (c : Char) : Bool :=
  c.isAlphanum || c == '+' || c == '-' || c == '.'

/-- The scheme at the start, in lower case, and what follows its colon. -/
def splitScheme? (chars : List Char) : Option (String × List Char) :=
  let scheme := chars.takeWhile isInScheme
  match chars.drop scheme.length with
  | ':' :: rest =>
    if (scheme.head?.map Char.isAlpha).getD false then
      some (String.ofList (Text.foldCase scheme), rest)
    else none
  | _ => none

/-- The port that some digits write; the standing one of the scheme is left out. -/
def port? (standing : Nat) (digits : List Char) : Option (Option Nat) :=
  if digits.isEmpty then some none
  else if !digits.all Char.isDigit then none
  else
    let port := Text.digitsValue digits
    if 65535 < port then none else some (if port = standing then none else some port)

/-- Characters that a host must not hold. -/
def isForbiddenInHost (c : Char) : Bool :=
  c.toNat ≤ 0x20 || c.toNat == 0x7F ||
    ['#', '%', '/', ':', '<', '>', '?', '@', '[', '\\', ']', '^', '|'].contains c

/-- The host that some characters name. -/
def host? (chars : List Char) : Option String :=
  let chars := Text.foldCase chars
  let inner :=
    if chars.head? = some '[' && chars.getLast? = some ']' then
      (chars.drop 1).dropLast.filter (· != ':')
    else chars
  if inner.isEmpty || inner.any isForbiddenInHost then none else some (String.ofList chars)

/-- The host and the port that some characters name. What precedes an at sign names a user. -/
def authority? (standing : Nat) (chars : List Char) : Option (String × Option Nat) := do
  let chars := (chars.reverse.takeWhile (· != '@')).reverse
  let tail := chars.reverse.takeWhile fun c => c != ':' && c != ']'
  let (host, digits) :=
    if (chars.reverse.drop tail.length).head? = some ':' then
      ((chars.reverse.drop (tail.length + 1)).reverse, tail.reverse)
    else (chars, [])
  return (← host? host, ← port? standing digits)

/-- Whether a segment stands for the directory itself. -/
def isHere (segment : String) : Bool :=
  [".", "%2e"].contains (String.ofList (Text.foldCase segment.toList))

/-- Whether a segment stands for the directory above. -/
def isAbove (segment : String) : Bool :=
  ["..", ".%2e", "%2e.", "%2e%2e"].contains (String.ofList (Text.foldCase segment.toList))

/-- Follows the segments of a path from a directory. A path that ends with a step to a directory
ends with a slash. -/
def walk (directory : List String) : List String → List String
  | [] => directory
  | segment :: rest =>
    let ending := if rest.isEmpty then [""] else []
    if isAbove segment then walk (directory.dropLast ++ ending) rest
    else if isHere segment then walk (directory ++ ending) rest
    else walk (directory ++ [segment]) rest

/-- The pieces of a path between slashes. -/
def pathPieces (path : List Char) : List String :=
  let slashed := path.map fun c => if isSlash c then '/' else c
  Text.pieces '/' (String.ofList (Percent.encode Percent.keptInPath slashed))

/-- The path and the query that some characters write; a fragment is dropped. -/
def pathAndQuery (chars : List Char) : List String × Option String :=
  let chars := chars.takeWhile (· != '#')
  let path := chars.takeWhile (· != '?')
  let query := match chars.drop path.length with
    | _ :: query => some (String.ofList (Percent.encode Percent.keptInQuery query))
    | [] => none
  (walk [] ((pathPieces path).drop 1), query)

/-- Reads an absolute address. -/
def ofText? (text : String) : Option Url := do
  let (scheme, rest) ← splitScheme? (essential text)
  let standing ← defaultPorts.lookup scheme
  let rest := rest.dropWhile isSlash
  let authority := rest.takeWhile fun c => !isSlash c && c != '?' && c != '#'
  let (host, port) ← authority? standing authority
  let (segments, query) := pathAndQuery (rest.drop authority.length)
  return ⟨scheme, host, port, if segments.isEmpty then [""] else segments, query⟩

/-! ### Writing -/

/-- The path of an address. -/
def path (url : Url) : String :=
  "/" ++ Text.join "/" url.segments

/-- What a request names of the address. -/
def target (url : Url) : String :=
  url.path ++ (url.query.map ("?" ++ ·)).getD ""

/-- The scheme, the host and the port. -/
def origin (url : Url) : String :=
  url.scheme ++ "://" ++ url.host ++ (url.port.map fun port => ":" ++ toString port).getD ""

/-! ### Other addresses -/

/-- The address with more fields in its query. -/
def withQuery (url : Url) (fields : List (String × String)) : Url :=
  if fields.isEmpty then url
  else
    match url.query with
    | none => { url with query := some (Percent.form fields) }
    | some query =>
      if query.isEmpty then { url with query := some (Percent.form fields) }
      else { url with query := some (query ++ "&" ++ Percent.form fields) }

/-- The directory that the path is in. -/
def directory (url : Url) : String :=
  "/" ++ String.join (url.segments.dropLast.map (· ++ "/"))

/-- The address that a reference without a scheme leads to: on another host, on the same one, with
another query, or below the same directory. -/
def followRelative? (url : Url) (reference : List Char) : Option Url :=
  let rest := String.ofList reference
  match reference with
  | [] => some url
  | first :: later =>
    if isSlash first && (later.head?.map isSlash).getD false then
      ofText? (url.scheme ++ ":" ++ rest)
    else if isSlash first then ofText? (url.origin ++ rest)
    else if first = '?' then ofText? (url.origin ++ url.path ++ rest)
    else if first = '#' then some url
    else ofText? (url.origin ++ url.directory ++ rest)

/-- The address that a reference leads to. -/
def follow? (url : Url) (reference : String) : Option Url :=
  let chars := essential reference
  match splitScheme? chars with
  | some _ => ofText? reference
  | none => url.followRelative? chars

end Url

end ResourceGraph
