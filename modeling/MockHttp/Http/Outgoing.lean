import MockHttp.Http.Header
import MockHttp.Http.Uri

/-! # Requests to be sent -/

namespace MockHttp

structure Outgoing where
  method : String
  target : Uri
  headers : List (HeaderName × Bytes)
  body : Bytes := []

inductive TransferError where
  | cannotConnect
  | cutOff
  | cannotBuild
deriving DecidableEq, Repr

def TransferError.message : TransferError → String
  | cannotConnect => "Cannot connect"
  | cutOff => "Cannot send request"
  | cannotBuild => "Cannot build request"

namespace Outgoing

def post (authority target : String) (json : Option (List Char)) :
    Except TransferError Outgoing :=
  let host := (HeaderName.host, Text.bytes authority)
  match Uri.ofText? target with
  | none => .error .cannotBuild
  | some target =>
    if !decide (IsHeaderValue host.2) then .error .cannotBuild
    else .ok <| match json with
      | some text =>
        { method := "POST", target, body := Utf8.encode text,
          headers := [host, (.contentType, Text.bytes "application/json")] }
      | none => { method := "POST", target, headers := [host] }

end Outgoing

end MockHttp
