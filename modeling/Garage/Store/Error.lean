import Garage.Text.Quoted

/-! How work on a database fails. -/

namespace Garage.Store

/-- What stopped a connection or a statement. -/
inductive Cause where
  /-- The engine refused, with its code and its words. -/
  | engine (code : Nat) (text : String)
  /-- A stored value does not fit its column's type. -/
  | decoding (column : String) (text : String)
  /-- The connection string asks for something that there is not. -/
  | configuration (text : String)
  /-- The engine could not be reached. -/
  | communication (text : String)
  /-- The connection string is no URL. -/
  | unreadableUrl (url : String)
  /-- Anything else, in its own words. -/
  | other (text : String)
  deriving DecidableEq, Repr

def Cause.message : Cause → String
  | engine code text => s!"error returned from database: (code: {code}) {text}"
  | decoding column text => s!"error occurred while decoding column {Text.quoted column}: {text}"
  | configuration text => s!"error with configuration: {text}"
  | communication text => s!"error communicating with database: {text}"
  | unreadableUrl url => s!"The connection string '{url}' cannot be parsed."
  | other text => text

/-- What lies behind a cause, in words, if anything does. -/
def Cause.root? : Cause → Option String
  | engine code text => some s!"(code: {code}) {text}"
  | decoding _ text => some text
  | configuration text => some text
  | communication text => some text
  | unreadableUrl _ => none
  | other _ => none

/-- Why no connection could be had. -/
inductive Unavailable where
  | timeout
  | closed
  deriving DecidableEq, Repr

def Unavailable.message : Unavailable → String
  | timeout => "Connection pool timed out"
  | closed => "Connection closed"

/-- How work on a database fails. -/
inductive Error where
  | custom (text : String)
  | type (text : String)
  | json (text : String)
  | migration (text : String)
  | recordNotFound (text : String)
  | attributeNotSet (name : String)
  | recordNotInserted
  | recordNotUpdated
  /-- The new row's id is too large to be answered. -/
  | insertIdUnreadable
  /-- A row is to be updated whose key is not known. -/
  | keyMissing
  /-- A key cannot be made from an id. -/
  | keyInconvertible (target : String)
  | conversion (source target text : String)
  | acquisition (reason : Unavailable)
  | connection (cause : Cause)
  | query (cause : Cause)
  | execution (cause : Cause)
  deriving DecidableEq, Repr

namespace Error

def message : Error → String
  | custom text => s!"Custom Error: {text}"
  | type text => s!"Type Error: {text}"
  | json text => s!"Json Error: {text}"
  | migration text => s!"Migration Error: {text}"
  | recordNotFound text => s!"RecordNotFound Error: {text}"
  | attributeNotSet name => s!"Attribute {name} is NotSet"
  | recordNotInserted => "None of the records are inserted"
  | recordNotUpdated => "None of the records are updated"
  | insertIdUnreadable => "Failed to unpack last_insert_id"
  | keyMissing => "Failed to get primary key from model"
  | keyInconvertible target => s!"Type '{target}' cannot be converted from u64"
  | conversion source target text => s!"Error converting \x60{source}\x60 into \x60{target}\x60: {text}"
  | acquisition reason => s!"Failed to acquire connection from pool: {reason.message}"
  | connection cause => s!"Connection Error: {cause.message}"
  | query cause => s!"Query Error: {cause.message}"
  | execution cause => s!"Execution Error: {cause.message}"

def cause? : Error → Option Cause
  | connection cause => some cause
  | query cause => some cause
  | execution cause => some cause
  | conversion _ _ text => some (.other text)
  | acquisition reason => some (.other reason.message)
  | _ => none

/-- A name before a quoted text. -/
def tagged (name text : String) : String :=
  name ++ "(" ++ Text.quoted text ++ ")"

/-- An error by its kind, the text quoted. -/
def inspect : Error → String
  | custom text => tagged "Custom" text
  | type text => tagged "Type" text
  | json text => tagged "Json" text
  | migration text => tagged "Migration" text
  | recordNotFound text => tagged "RecordNotFound" text
  | attributeNotSet name => tagged "AttrNotSet" name
  | recordNotInserted => "RecordNotInserted"
  | recordNotUpdated => "RecordNotUpdated"
  | insertIdUnreadable => "UnpackInsertId"
  | keyMissing => "UpdateGetPrimaryKey"
  | keyInconvertible target => tagged "ConvertFromU64" target
  | conversion source target text =>
    "TryIntoErr \x7b from: " ++ Text.quoted source ++ ", into: " ++ Text.quoted target ++ ", source: " ++
      Text.quoted text ++ " \x7d"
  | acquisition .timeout => "ConnectionAcquire(Timeout)"
  | acquisition .closed => "ConnectionAcquire(ConnectionClosed)"
  | connection cause => tagged "Conn" cause.message
  | query cause => tagged "Query" cause.message
  | execution cause => tagged "Exec" cause.message

end Error

end Garage.Store
