import Garage.Details
import Garage.Html.Escape

/-! The two HTML pages. Whatever is put into them is escaped. -/

namespace Garage.Html

/-- A page with this title and this body, both of them markup. -/
def page (title body : List Char) : List Char :=
  "<!DOCTYPE html>\n<html lang=\"en\">\n<head>\n<meta charset=\"utf-8\">\n<title>".toList ++ title ++
    "</title>\n</head>\n<body>".toList ++ body ++ "</body>\n</html>".toList

/-- The page that shows a vehicle. -/
def vehiclePage (username : String) (d : Details) : String :=
  String.ofList <| page ("Vehicle for ".toList ++ escape username.toList)
    (escape d.make.toList ++ ' ' :: escape d.model.toList)

/-- The page that says that there is no vehicle. -/
def notFoundPage (username : String) : String :=
  String.ofList <| page "No vehicle found".toList
    ("No vehicle registered for ".toList ++ escape username.toList)

end Garage.Html
