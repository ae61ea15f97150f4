import MockHttp.Http.Header
import MockHttp.Http.Query
import MockHttp.Http.Uri

/-! # Requests as a script sees them -/

namespace MockHttp

structure Request where
  method : String
  path : String
  query : List (String × String) := []
  headers : List (HeaderName × Bytes) := []
  body : Bytes := []

namespace Request

/-- A body that fails to arrive counts as empty. -/
def ofParts (method : String) (target : Uri) (headers : List (HeaderName × Bytes))
    (body : Option Bytes) : Request where
  method
  path := String.ofList target.path
  query := match target.query with
    | some q => Query.parameters q
    | none => []
  headers
  body := body.getD []

def headerBytes? (r : Request) (name : HeaderName) : Option Bytes :=
  (r.headers.find? fun h => h.1 = name).map (·.2)

/-- The first value of a header as text; no text for names that are absent or impossible. -/
def header (r : Request) (name : String) : String :=
  match (HeaderName.ofText? name).bind r.headerBytes? with
  | some value => Text.ofBytesLossy value
  | none => ""

def parameter (r : Request) (name : String) : String :=
  match r.query.find? fun p => p.1 = name with
  | some p => p.2
  | none => ""

end Request

end MockHttp
