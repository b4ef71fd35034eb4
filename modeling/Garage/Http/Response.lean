/-! What a client is answered. -/

namespace Garage.Http

/-- An answer: status, headers in order, body. -/
structure Response where
  status : Nat
  headers : List (String × String)
  body : String
  deriving DecidableEq, Repr

namespace Response

/-- The value of a header. -/
def header? (r : Response) (name : String) : Option String :=
  (r.headers.find? (·.1 == name)).map (·.2)

/-- Notes the length of the body, in bytes. -/
def measured (r : Response) : Response :=
  { r with headers := r.headers ++ [("content-length", toString r.body.utf8ByteSize)] }

/-- The answer without its body; what the headers say of it stays. -/
def withoutBody (r : Response) : Response :=
  { r with body := "" }

/-- An answer whose body has a content type. -/
def typed (status : Nat) (contentType body : String) : Response :=
  ⟨status, [("content-type", contentType)], body⟩

end Response

end Garage.Http
