import Garage.Details.Json
import Garage.Main
import Garage.Program
import Garage.Stub
import Garage.Web.Client
import Garage.Proofs.Details.Language
import Garage.Proofs.Details.Truncation
import Garage.Proofs.Registry.Ledger
import Garage.Proofs.Registry.Visits
import Garage.Proofs.Html.Document
import Garage.Proofs.Html.PageMarkup
import Garage.Proofs.Html.Stripping
import Garage.Proofs.Options.Server
import Garage.Proofs.Stub
import Garage.Proofs.Username.Language
import Garage.Proofs.Web.Notes
import Garage.Proofs.Web.Payload
