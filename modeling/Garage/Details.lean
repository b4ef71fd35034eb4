import Garage.Json.Text
import Garage.Text.Quoted

/-! What a vehicle is, and the texts that show it. -/

namespace Garage

/-- The make and the model of a vehicle, for instance Honda and Civic. -/
structure Details where
  make : String
  model : String
  deriving DecidableEq, Repr

namespace Details

/-- Make and model, a space between them. -/
def display (d : Details) : String :=
  d.make ++ " " ++ d.model

/-- The details by field, the texts quoted. -/
def inspect (d : Details) : String :=
  "VehicleDetails \x7b make: " ++ Text.quoted d.make ++ ", model: " ++ Text.quoted d.model ++ " \x7d"

/-- The characters of the JSON text. -/
def jsonList (d : Details) : List Char :=
  "\x7b\"make\":".toList ++ Json.writeText d.make.toList ++ ",\"model\":".toList ++
    Json.writeText d.model.toList ++ ['\x7d']

/-- The details as a JSON object, without white space. -/
def toJson (d : Details) : String :=
  String.ofList d.jsonList

@[simp] theorem toList_toJson (d : Details) : d.toJson.toList = d.jsonList := by
  simp [toJson]

end Details

end Garage
