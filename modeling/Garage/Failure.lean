import Garage.Http.Response
import Garage.Log
import Garage.Store.Error

/-! How looking up or registering a vehicle fails, and what a client and the log are told of it. -/

namespace Garage

/-- How looking up or registering a vehicle fails. -/
inductive Failure where
  /-- What was asked for is not admissible. -/
  | badRequest (reason : String)
  | userNotFound (username : String)
  | database (error : Store.Error)
  /-- Anything else. -/
  | internal (text : String)
  deriving DecidableEq, Repr

/-- An answer and the notes made for it. -/
structure Reply where
  response : Http.Response
  log : Log
  deriving DecidableEq, Repr

namespace Failure

def message : Failure → String
  | badRequest reason => s!"bad request: {reason}"
  | userNotFound username => s!"no vehicle registered for user {username}"
  | database error => s!"database error: {error.message}"
  | internal text => s!"internal server error: {text}"

/-- A failure by its kind, the text quoted. -/
def inspect : Failure → String
  | badRequest reason => Store.Error.tagged "BadRequest" reason
  | userNotFound username => Store.Error.tagged "UserNotFound" username
  | database error => "DatabaseError(" ++ error.inspect ++ ")"
  | internal text => Store.Error.tagged "InternalServerError" text

def source? : Failure → Option Store.Error
  | database error => some error
  | _ => none

/-- The status that a client is told. -/
def status : Failure → Nat
  | badRequest _ => 400
  | userNotFound _ => 404
  | database _ => 500
  | internal _ => 500

/-- The body that a client is told: it never shows what the failure carries. -/
def body : Failure → String
  | badRequest _ => "Bad Request"
  | userNotFound _ => "Not Found"
  | database _ => "Database error"
  | internal _ => "Internal server error"

/-- The note of a failure: an error if the fault lies with the server. -/
def note : Failure → Note
  | badRequest reason => ⟨.info, .failures, s!"Bad request received: {reason}"⟩
  | userNotFound username => ⟨.info, .failures, s!"No vehicle for {username}"⟩
  | database error => ⟨.error, .failures, s!"Database error: {error.message}"⟩
  | internal text => ⟨.error, .failures, s!"Internal server error: {text}"⟩

def reply (f : Failure) : Reply :=
  ⟨⟨f.status, [], f.body⟩, [f.note]⟩

end Failure

end Garage
