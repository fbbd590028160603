/-
**Messages on the wire.**

A request goes to an address, with headers and perhaps a body; an answer has a status, headers and a
body, which may break off. An attempt to deliver a request ends with an answer or with the reason
why there is none.

* `WireRequest.redirected?`: the request that an answer asks for instead;
* `WireAnswer.settled`: what counts as an answer, and what counts as its body.
-/

import ResourceGraph.Http.Url
import ResourceGraph.Service.Request

namespace ResourceGraph

/-- Names with their values. -/
abbrev Headers := List (String × String)

namespace Headers

/-- Header names are equal when they differ in case only. -/
def sameName (first second : String) : Bool :=
  Text.foldCase first.toList == Text.foldCase second.toList

/-- The blanks that may surround a header's value. -/
def isPadding (c : Char) : Bool :=
  c == ' ' || c == '\t'

/-- A value without the blanks around it. -/
def trimmed (value : String) : String :=
  String.ofList ((value.toList.dropWhile isPadding).reverse.dropWhile isPadding).reverse

/-- The first value under a name. -/
def get? (headers : Headers) (name : String) : Option String :=
  (headers.find? fun header => sameName header.1 name).map fun header => trimmed header.2

/-- The headers without those of some names. -/
def without (headers : Headers) (names : List String) : Headers :=
  headers.filter fun header => !names.any (sameName header.1)

/-- Whether a value can be sent: it holds no control characters but tabs. -/
def canSend (value : String) : Bool :=
  value.toList.all fun c => (0x20 ≤ c.toNat && c.toNat != 0x7F) || c == '\t'

end Headers

/-- A request on the wire. -/
structure WireRequest where
  method : Method
  url : Url
  headers : Headers
  body : Option String
deriving DecidableEq, Repr

/-- An answer on the wire. -/
structure WireAnswer where
  status : Nat
  headers : Headers
  /-- The text, or the reason why it broke off. -/
  body : Except String String

/-- What comes of an attempt to deliver a request: an answer, or the reason why there is none. -/
abbrev Delivery := Except String WireAnswer

namespace WireAnswer

/-- Whether the request was successful. -/
def isSuccess (answer : WireAnswer) : Bool :=
  200 ≤ answer.status && answer.status < 300

/-- Whether an answer has no body, whatever follows it. -/
def isBodiless (method : Method) (answer : WireAnswer) : Bool :=
  method.name == "HEAD" || answer.status == 204 || answer.status == 304

/-- What an answer counts as: an interim one is none, and some have no body. -/
def settled (method : Method) (answer : WireAnswer) : Delivery :=
  if answer.status < 200 && answer.status != 101 then
    .error "connection closed before message completed"
  else if answer.isBodiless method then .ok { answer with body := .ok "" }
  else .ok answer

end WireAnswer

namespace WireRequest

/-- The request for something else, without a body. -/
def fetching (request : WireRequest) : WireRequest :=
  { request with
    method := .get
    headers := request.headers.without ["content-type", "content-length"]
    body := none }

/-- The request that a status asks for instead, apart from its address. -/
def rephrased? (request : WireRequest) (status : Nat) : Option WireRequest :=
  if status = 301 || status = 302 then
    some (if request.method = .post then request.fetching else request)
  else if status = 303 then
    some (if request.method.name == "HEAD" then request else request.fetching)
  else if status = 307 || status = 308 then some request
  else none

/-- The request at another address. Credentials stay with the host they were given to. -/
def movedTo (request : WireRequest) (url : Url) : WireRequest :=
  { request with
    url := url
    headers :=
      if url.host = request.url.host && url.port = request.url.port then request.headers
      else request.headers.without ["authorization"] }

/-- The request that an answer asks for instead. -/
def redirected? (request : WireRequest) (answer : WireAnswer) : Option WireRequest := do
  let rephrased ← request.rephrased? answer.status
  let location ← answer.headers.get? "location"
  return rephrased.movedTo (← request.url.follow? location)

end WireRequest

end ResourceGraph
