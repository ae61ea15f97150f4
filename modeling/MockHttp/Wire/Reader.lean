import MockHttp.Json.Skipping
import MockHttp.Wire.Message

/-! # Reading messages

A message is an object, of which unknown members are passed over, or a list of its fields in
order. A field that is known must not be repeated. The fields that are missing are reported in
the order in which they are declared.
-/

namespace MockHttp.Wire

open Json (Input Error)

/-! ## Fields -/

/-- The error that another kind of value was wanted, or that what stands there is no value. -/
def wrongType {α : Type} (wanted : String) (s : Input) : Except Error α :=
  let found {β : Type} (what : β → Json.Found) (result : Except Error (β × Input)) :=
    match result with
    | .ok (v, _) => .error (.wrongType (what v) wanted)
    | .error e => .error e
  let word (cs : List Char) (what : Json.Found) (rest : Input) : Except Error α :=
    match Json.scanWord cs rest with
    | .ok _ => .error (.wrongType what wanted)
    | .error e => .error e
  let number : Number → Json.Found
    | .int n => .integer n
    | .float x => .float x
  match s with
  | [] => .error .endOfValue
  | .illFormed _ :: _ => .error .expectedValue
  | .char c :: rest =>
    if c = 'n' then word ['u', 'l', 'l'] .null rest
    else if c = 't' then word ['r', 'u', 'e'] (.bool true) rest
    else if c = 'f' then word ['a', 'l', 's', 'e'] (.bool false) rest
    else if c = '-' then found number (Json.scanNumber true rest)
    else if c.isDigit then found number (Json.scanNumber false s)
    else if c = '"' then found .string (Json.scanString rest)
    else if c = '[' then .error (.wrongType .sequence wanted)
    else if c = '\x7b' then .error (.wrongType .map wanted)
    else .error .expectedValue

def portOf (n : Number) : Except Error Port :=
  match n with
  | .int n =>
    if 0 ≤ n ∧ n < 65536 then .ok (UInt16.ofNat n.toNat)
    else .error (.wrongValue (.integer n) "u16")
  | .float x => .error (.wrongType (.float x) "u16")

def readPort (s : Input) : Except Error (Port × Input) := do
  match Json.skipSpace s with
  | [] => throw .endOfValue
  | .char '-' :: rest =>
    let (n, s) ← Json.scanNumber true rest
    return (← portOf n, s)
  | p :: rest =>
    if (Json.digit? p).isSome then
      let (n, s) ← Json.scanNumber false (p :: rest)
      return (← portOf n, s)
    else wrongType "u16" (p :: rest)

def readText (s : Input) : Except Error (String × Input) :=
  match Json.skipSpace s with
  | [] => .error .endOfValue
  | .char '"' :: rest => Json.scanString rest
  | s => wrongType "a string" s

/-- A list in which lists and objects lie at most `depth - 1` deep. -/
def readSequence {α : Type} (depth : Nat)
    (read : (depth : Nat) → Input → Except Error (α × Input)) (s : Input) :
    Except Error (List α × Input) :=
  match Json.skipSpace s with
  | [] => .error .endOfValue
  | .char '[' :: rest =>
    match depth with
    | 0 => .error .tooDeep
    | depth + 1 => Json.readList (read depth) rest
  | s => wrongType "a sequence" s

/-! ## Structures -/

/-- The value of a known member that was not met before. -/
def readField {α : Type} (name : String) (known : Option α)
    (read : Input → Except Error (α × Input)) (s : Input) : Except Error (Option α × Input) := do
  if known.isSome then throw (.duplicateField name)
  let (v, s) ← read (← Json.colon s)
  return (some v, s)

def skipField {σ : Type} (state : σ) (s : Input) : Except Error (σ × Input) := do
  return (state, ← Json.skipValue (← Json.colon s))

def required {α : Type} (name : String) : Option α → Except Error α
  | some v => .ok v
  | none => .error (.missingField name)

def readItem {α : Type} (wanted : String) (index : Nat)
    (read : Input → Except Error (α × Input)) (s : Input) : Except Error (α × Input) := do
  let (more, s) ← Json.nextElement (index == 0) s
  if more then read s else throw (.wrongLength index wanted)

def readItemOr {α : Type} (default : α) (read : Input → Except Error (α × Input)) (s : Input) :
    Except Error (α × Input) := do
  let (more, s) ← Json.nextElement false s
  if more then read s else return (default, s)

def readStructure {α : Type} (depth : Nat) (wanted : String)
    (ofList ofObject : (depth : Nat) → Input → Except Error (α × Input)) (s : Input) :
    Except Error (α × Input) := do
  match Json.skipSpace s with
  | [] => throw .endOfValue
  | .char '[' :: rest =>
    match depth with
    | 0 => throw .tooDeep
    | depth + 1 =>
      let (v, s) ← ofList depth rest
      return (v, ← Json.endList s)
  | .char '\x7b' :: rest =>
    match depth with
    | 0 => throw .tooDeep
    | depth + 1 => ofObject depth rest
  | s => wrongType wanted s

/-! ## Entries -/

structure PartialEntry where
  group : Option String := none
  function : Option String := none
  args : Option (List Json) := none

def PartialEntry.take (depth : Nat) (key : String) (p : PartialEntry) (s : Input) :
    Except Error (PartialEntry × Input) := do
  match key with
  | "group" =>
    let (group, s) ← readField key p.group readText s
    return ({ p with group }, s)
  | "func" =>
    let (function, s) ← readField key p.function readText s
    return ({ p with function }, s)
  | "args" =>
    let (args, s) ← readField key p.args (readSequence depth Json.readValue) s
    return ({ p with args }, s)
  | _ => skipField p s

def PartialEntry.complete (p : PartialEntry) : Except Error Entry := do
  let group ← required "group" p.group
  let function ← required "func" p.function
  return { group, function, args := p.args.getD [] }

def readEntry (depth : Nat) (s : Input) : Except Error (Entry × Input) :=
  let wanted := "struct ResponseFunc with 3 elements"
  readStructure depth "struct ResponseFunc"
    (fun depth s => do
      let (group, s) ← readItem wanted 0 readText s
      let (function, s) ← readItem wanted 1 readText s
      let (args, s) ← readItemOr [] (readSequence depth Json.readValue) s
      return ({ group, function, args }, s))
    (fun depth s => do
      let (p, s) ← Json.readMembers (PartialEntry.take depth) {} s
      return (← p.complete, s))
    s

/-! ## Registrations -/

structure PartialRegistration where
  port : Option Port := none
  method : Option String := none
  path : Option String := none
  entries : Option (List Entry) := none

def PartialRegistration.take (depth : Nat) (key : String) (p : PartialRegistration) (s : Input) :
    Except Error (PartialRegistration × Input) := do
  match key with
  | "port" =>
    let (port, s) ← readField key p.port readPort s
    return ({ p with port }, s)
  | "method" =>
    let (method, s) ← readField key p.method readText s
    return ({ p with method }, s)
  | "path" =>
    let (path, s) ← readField key p.path readText s
    return ({ p with path }, s)
  | "responseFunc" =>
    let (entries, s) ← readField key p.entries (readSequence depth readEntry) s
    return ({ p with entries }, s)
  | _ => skipField p s

def PartialRegistration.complete (p : PartialRegistration) : Except Error Registration := do
  let port ← required "port" p.port
  let method ← required "method" p.method
  let path ← required "path" p.path
  return { port, method, path, entries := p.entries.getD [] }

def readRegistration (depth : Nat) (s : Input) : Except Error (Registration × Input) :=
  let wanted := "struct RegisterRoute with 4 elements"
  readStructure depth "struct RegisterRoute"
    (fun depth s => do
      let (port, s) ← readItem wanted 0 readPort s
      let (method, s) ← readItem wanted 1 readText s
      let (path, s) ← readItem wanted 2 readText s
      let (entries, s) ← readItemOr [] (readSequence depth readEntry) s
      return ({ port, method, path, entries }, s))
    (fun depth s => do
      let (p, s) ← Json.readMembers (PartialRegistration.take depth) {} s
      return (← p.complete, s))
    s

/-! ## Resets and answers -/

def takePort (key : String) (p : Option Port) (s : Input) : Except Error (Option Port × Input) :=
  match key with
  | "port" => readField key p readPort s
  | _ => skipField p s

def readPortReset (depth : Nat) (s : Input) : Except Error (PortReset × Input) :=
  readStructure depth "struct ResetPort"
    (fun _ s => do
      let (port, s) ← readItem "struct ResetPort with 1 element" 0 readPort s
      return ({ port }, s))
    (fun _ s => do
      let (port, s) ← Json.readMembers takePort none s
      return ({ port := ← required "port" port }, s))
    s

structure PartialStatus where
  status : Option String := none
  message : Option String := none

def PartialStatus.take (key : String) (p : PartialStatus) (s : Input) :
    Except Error (PartialStatus × Input) := do
  match key with
  | "status" =>
    let (status, s) ← readField key p.status readText s
    return ({ p with status }, s)
  | "message" =>
    let (message, s) ← readField key p.message readText s
    return ({ p with message }, s)
  | _ => skipField p s

def PartialStatus.complete (p : PartialStatus) : Except Error Status := do
  let status ← required "status" p.status
  let message ← required "message" p.message
  return { status, message }

def readStatus (depth : Nat) (s : Input) : Except Error (Status × Input) :=
  let wanted := "struct StatusResponse with 2 elements"
  readStructure depth "struct StatusResponse"
    (fun _ s => do
      let (status, s) ← readItem wanted 0 readText s
      let (message, s) ← readItem wanted 1 readText s
      return ({ status, message }, s))
    (fun _ s => do
      let (p, s) ← Json.readMembers PartialStatus.take {} s
      return (← p.complete, s))
    s

/-! ## Names of a choice -/

def ofNames {α : Type} (all : List α) (name : α → String) (s : String) : Except Error α :=
  match all.find? fun v => name v == s with
  | some v => .ok v
  | none => .error (.unknownVariant s (all.map name))

def readUnit (s : Input) : Except Error Input :=
  match Json.skipSpace s with
  | [] => .error .endOfValue
  | .char 'n' :: rest => Json.scanWord ['u', 'l', 'l'] rest
  | s => wrongType "unit" s

/-- A name as a string, or as the only key of an object with the value null. An object without a
key is not a value of the choice. -/
def readChoice {α : Type} (depth : Nat) (all : List α) (name : α → String) (s : Input) :
    Except Error (α × Input) := do
  match Json.skipSpace s with
  | [] => throw .endOfValue
  | .char '"' :: rest =>
    let (key, s) ← Json.scanString rest
    return (← ofNames all name key, s)
  | .char '\x7b' :: rest =>
    if depth = 0 then throw .tooDeep
    let (key, s) ← match Json.skipSpace rest with
      | [] => throw .endOfObject
      | .char '"' :: rest => Json.scanString rest
      | .char '\x7d' :: _ => throw .expectedValue
      | _ => throw .keyNotString
    let v ← ofNames all name key
    let s ← readUnit (← Json.colon s)
    match Json.skipSpace s with
    | [] => throw .endOfObject
    | .char '\x7d' :: rest => return (v, rest)
    | _ => throw .expectedValue
  | _ => throw .expectedValue

def readHashAlgorithm (depth : Nat) (s : Input) : Except Error (HashAlgorithm × Input) :=
  readChoice depth HashAlgorithm.all HashAlgorithm.name s

def readKind (depth : Nat) (s : Input) : Except Error (Json.Kind × Input) :=
  readChoice depth Json.Kind.all Json.Kind.name s

def parse {α : Type} (read : (depth : Nat) → Input → Except Error (α × Input)) (s : Input) :
    Except Error α :=
  Json.finish (read Json.maxDepth s)

end MockHttp.Wire
