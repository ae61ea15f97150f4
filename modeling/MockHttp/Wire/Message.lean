import MockHttp.Instruction.Basic
import MockHttp.Json.Printer

/-! # Messages between client and control plane

Each message is one JSON object with its fields in a fixed order.
-/

namespace MockHttp

abbrev Port := UInt16

structure Registration where
  port : Port
  method : String
  path : String
  entries : List Entry := []

structure PortReset where
  port : Port

structure Status where
  status : String
  message : String

def Status.ok (message : String) : Status := ⟨"ok", message⟩

def Status.error (message : String) : Status := ⟨"error", message⟩

abbrev Fields := List (String × Json)

def Fields.print (fields : Fields) : List Char :=
  Json.printObject (fields.map fun f => (f.1, f.2.print))

namespace Entry

def fields (e : Entry) : Fields :=
  [("group", .string e.group), ("func", .string e.function), ("args", .array e.args)]

def toJson (e : Entry) : Json := .ofMembers e.fields

def print (e : Entry) : List Char := e.fields.print

end Entry

namespace Registration

def fields (r : Registration) : Fields :=
  [("port", .nat r.port.toNat), ("method", .string r.method), ("path", .string r.path),
    ("responseFunc", .array (r.entries.map Entry.toJson))]

def toJson (r : Registration) : Json := .ofMembers r.fields

def print (r : Registration) : List Char :=
  Json.printObject
    [("port", (Json.nat r.port.toNat).print), ("method", (Json.string r.method).print),
      ("path", (Json.string r.path).print),
      ("responseFunc", Json.printList (r.entries.map Entry.print))]

end Registration

namespace PortReset

def fields (r : PortReset) : Fields := [("port", .nat r.port.toNat)]

def toJson (r : PortReset) : Json := .ofMembers r.fields

def print (r : PortReset) : List Char := r.fields.print

end PortReset

namespace Status

def fields (s : Status) : Fields := [("status", .string s.status), ("message", .string s.message)]

def toJson (s : Status) : Json := .ofMembers s.fields

def print (s : Status) : List Char := s.fields.print

end Status

end MockHttp
