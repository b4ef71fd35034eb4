import Garage.Web.Answer

/-!
A service for tests that answers as it was told to expect. An expectation may be limited to a user and to
a number of calls.
-/

namespace Garage

/-- What an expectation answers. -/
inductive StubAnswer where
  | details (d : Details)
  | failure (f : Failure)
  | notFound
  deriving DecidableEq, Repr

/-- The answer to a call for a user. -/
def StubAnswer.lookup : StubAnswer → String → Web.Lookup
  | details d, _ => .ok d
  | failure f, _ => .error f
  | notFound, username => .error (.userNotFound username)

structure Expectation where
  /-- The user that it is for; any user if absent. -/
  user : Option String
  /-- How often it is to be called; any number of times if absent. -/
  times : Option Nat
  answer : StubAnswer
  calls : Nat
  deriving DecidableEq, Repr

namespace Expectation

def isFor (e : Expectation) (username : String) : Bool :=
  e.user.all (· == username)

/-- It has been called as often as it is to be. -/
def isUsedUp (e : Expectation) : Bool :=
  e.times.any (· ≤ e.calls)

/-- It has been called exactly as often as it is to be. -/
def isSatisfied (e : Expectation) : Bool :=
  e.times.all (· == e.calls)

def called (e : Expectation) : Expectation :=
  { e with calls := e.calls + 1 }

/-- Says that this call was one too many. -/
def excess (e : Expectation) (times : Nat) : Crash :=
  let name := "MockUserVehicleService::get_vehicle_details: Expectation(<function>)"
  if times = 0 then ⟨name ++ " should not have been called"⟩
  else ⟨s!"{name} called {e.calls} times which is more than the expected {times}"⟩

/-- The answer of an expectation that has just taken a call. -/
def respond (e : Expectation) (username : String) : Except Crash Web.Lookup :=
  match e.times with
  | some times => if times < e.calls then .error (e.excess times) else .ok (e.answer.lookup username)
  | none => .ok (e.answer.lookup username)

end Expectation

/-- A service that answers as expected; the first expectation that can take a call takes it. -/
abbrev Stub := List Expectation

namespace Stub

/-- Says that no expectation takes the call. -/
def unexpected (username : String) : Crash :=
  ⟨s!"MockUserVehicleService::get_vehicle_details({Text.quoted username}): No matching expectation found"⟩

/-- A call, given to the first expectation that `takes` it. -/
def offer (takes : Expectation → Bool) (username : String) :
    Stub → Except Crash Web.Lookup × Stub
  | [] => (.error (unexpected username), [])
  | e :: es =>
    if takes e then (e.called.respond username, e.called :: es)
    else
      let (answer, es) := offer takes username es
      (answer, e :: es)

/-- A call. An expectation that is used up is passed over, unless it is the only one. -/
def call (username : String) (stub : Stub) : Except Crash Web.Lookup × Stub :=
  offer (fun e => e.isFor username && (stub.length == 1 || !e.isUsedUp)) username stub

/-- Every expectation has been called as often as it was to be. -/
def isSatisfied (stub : Stub) : Bool :=
  stub.all Expectation.isSatisfied

end Stub

end Garage
