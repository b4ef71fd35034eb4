import Garage.Http.Uri

/-! Requests, and when one can be built. -/

namespace Garage.Http

/-- A request method; names are told apart by case. -/
inductive Method where
  | get
  | head
  | other (name : String)
  deriving DecidableEq, Repr

/-- A character of a method or a header name. -/
def isTokenChar (c : Char) : Bool :=
  Uri.isAlphanumeric c || "!#$%&'*+-.^_\x60|~".toList.contains c

/-- A text of one token character or more. -/
def isToken (s : String) : Bool :=
  !s.isEmpty && s.toList.all isTokenChar

def Method.ofString? (name : String) : Option Method :=
  if !isToken name then none
  else if name = "GET" then some .get
  else if name = "HEAD" then some .head
  else some (.other name)

def maxHeaderName : Nat := 65535

/-- A header name is a token, and not too long. -/
def isHeaderName (s : String) : Bool :=
  isToken s && s.utf8ByteSize ≤ maxHeaderName

/-- A header value has no control character but the tab. -/
def isHeaderValue (s : String) : Bool :=
  s.toList.all fun c => c == '\t' || (' ' ≤ c && c != '\x7f')

/-- A request as far as an answer can depend on it. -/
structure Request where
  method : Method
  /-- The raw path: escapes are not decoded. -/
  path : List Char
  deriving DecidableEq, Repr

/-- Why a request cannot be built. -/
inductive RequestFault where
  | method
  | uri (fault : UriFault)
  | headerName
  | headerValue
  deriving DecidableEq, Repr

def RequestFault.message : RequestFault → String
  | method => "invalid HTTP method"
  | uri fault => fault.message
  | headerName => "invalid HTTP header name"
  | headerValue => "failed to parse header value"

/-- Headers are checked in order, the name of each before its value. -/
def checkHeaders : List (String × String) → Except RequestFault Unit
  | [] => .ok ()
  | (name, value) :: r =>
    if !isHeaderName name then .error .headerName
    else if !isHeaderValue value then .error .headerValue
    else checkHeaders r

/-- Builds a request: the method is checked first, then the target, then the headers. -/
def Request.build (method uri : String) (headers : List (String × String)) :
    Except RequestFault Request :=
  match Method.ofString? method with
  | none => .error .method
  | some m => do
    let path ← (Uri.path uri).mapError RequestFault.uri
    checkHeaders headers
    .ok ⟨m, path⟩

end Garage.Http
