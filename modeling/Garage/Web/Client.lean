import Garage.Html.PageText
import Garage.Http.Status
import Garage.Web.Answer

/-! A client that gets pages: what it asks for, and what it makes of an answer. -/

namespace Garage.Web

/-- A page as a client sees it. -/
structure Page where
  status : Nat
  contentType : Option String
  markup : String
  deriving DecidableEq, Repr

def Page.text (p : Page) : String :=
  Html.bodyText p.markup

/-- Why a client has no page. -/
inductive ClientFault where
  | request (fault : Http.RequestFault)
  /-- The answer's status was not one of success. -/
  | status (code : Nat) (path : String)
  deriving DecidableEq, Repr

def ClientFault.message : ClientFault → String
  | request fault => s!"could not build request: {fault.message}"
  | status code path => s!"{Http.statusLine code} for GET {path}"

/-- A header value that can be shown: visible ASCII, spaces and tabs. -/
def isShown (value : String) : Bool :=
  value.toList.all fun c => c == '\t' || (' ' ≤ c && c ≤ '\x7e')

/-- Makes a page of an answer to a request for `path`. -/
def Page.ofAnswer (path : String) (status : Nat) (contentType : Option String) (markup : String) :
    Except ClientFault Page :=
  if Http.isSuccess status then .ok ⟨status, contentType.filter isShown, markup⟩
  else .error (.status status path)

/-- Makes a page of a response to a request for `path`. -/
def Page.ofResponse (path : String) (r : Http.Response) : Except ClientFault Page :=
  Page.ofAnswer path r.status (r.header? "content-type") r.body

def pageRequest (path : String) : Except ClientFault Http.Request :=
  (Http.Request.build "GET" path [("host", "localhost")]).mapError .request

end Garage.Web
