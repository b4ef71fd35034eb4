/-! Work that is given up. -/

namespace Garage

/-- Work was given up instead of answered. -/
structure Crash where
  message : String
  deriving DecidableEq, Repr

end Garage
