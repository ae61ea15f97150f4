import MockHttp.Json.Printer
import MockHttp.Numeric.Arithmetic

/-! # The event log

Each record is one line of JSON: a time stamp, the kind, the duration unless it is zero, and the
details. Lines are only ever appended.
-/

namespace MockHttp.EventLog

structure Record where
  kind : String
  /-- In nanoseconds. -/
  duration : Nat
  details : Json

/-- Whole microseconds in thousandths. -/
def milliseconds (nanos : Nat) : Json :=
  ((Binary64.ofNat (nanos / 1000)).div (.ofNat 1000)).finite?.elim .null .float

/-- A duration of zero is left out. -/
def Record.members (r : Record) (timestamp : Nat) : List (String × Json) :=
  ("timestamp_ms", .nat timestamp) :: ("type", .string r.kind) ::
    ((if r.duration = 0 then [] else [("duration_ms", milliseconds r.duration)]) ++
      [("details", r.details)])

def Record.line (r : Record) (timestamp : Nat) : List Char :=
  Json.printObject ((r.members timestamp).map fun m => (m.1, m.2.print))

def append (file : List Char) (entry : Nat × Record) : List Char :=
  file ++ entry.2.line entry.1 ++ ['\n']

/-- Batches may be written through different handles: each appends to what is there. -/
def write (file : List Char) (batches : List (List (Nat × Record))) : List Char :=
  batches.flatten.foldl append file

def linesFrom : List Char → List Char → List (List Char)
  | [], [] => []
  | taken, [] => [taken.reverse]
  | taken, c :: rest =>
    if c = '\n' then taken.reverse :: linesFrom [] rest else linesFrom (c :: taken) rest

def lines (file : List Char) : List (List Char) := linesFrom [] file

end MockHttp.EventLog
