import MockHttp.Dict
import MockHttp.Numeric.Binary64

/-! # JSON values

A number is an integer or a floating-point number, and the two stay apart: `5` is not `5.0`. The
members of an object are listed in ascending order of their keys. Values that a text can denote
are `WellFormed`: integers fit 64 bits, with or without a sign, and no key is repeated.
-/

namespace MockHttp

inductive Number where
  | int (n : Int)
  | float (x : Binary64)
deriving DecidableEq, Repr

namespace Number

/-- The integers that are kept exact, from `-2 ^ 63` up to `2 ^ 64`: those that fit 64 bits with
or without a sign. -/
def IsExact (n : Int) : Prop := -0x8000000000000000 ≤ n ∧ n < 0x10000000000000000

instance (n : Int) : Decidable (IsExact n) := inferInstanceAs (Decidable (_ ∧ _))

def toBinary64 : Number → Binary64
  | int n => .ofInt n
  | float x => x

/-- Integers equal integers and floating-point numbers equal floating-point numbers. -/
def same : Number → Number → Bool
  | int a, int b => a == b
  | float x, float y => x.sameValue y
  | _, _ => false

def WellFormed : Number → Prop
  | int n => IsExact n
  | float _ => True

end Number

inductive Json where
  | null
  | bool (b : Bool)
  | number (n : Number)
  | string (s : String)
  | array (items : List Json)
  | object (members : List (String × Json))
deriving Repr, Inhabited

namespace Json

def int (n : Int) : Json := .number (.int n)

def nat (n : Nat) : Json := .int n

def float (x : Binary64) : Json := .number (.float x)

/-- The object with these members, of which the last of each key counts. -/
def ofMembers (members : List (String × Json)) : Json := .object (Assoc.ofList members)

def ofDict (d : Dict String Json) : Json := .object d.entries

def isNull : Json → Bool
  | null => true
  | _ => false

def number? : Json → Option Number
  | number n => some n
  | _ => none

def items? : Json → Option (List Json)
  | array items => some items
  | _ => none

def members? : Json → Option (List (String × Json))
  | object members => some members
  | _ => none

def member? (key : String) (v : Json) : Option Json := v.members?.bind (Assoc.get? key)

theorem member?_ofMembers (key : String) (members : List (String × Json)) :
    (ofMembers members).member? key = Assoc.get? key (Assoc.ofList members) := rfl

def item? (index : Nat) (v : Json) : Option Json := v.items?.bind (·[index]?)

mutual

def same : Json → Json → Bool
  | null, null => true
  | bool a, bool b => a == b
  | number a, number b => a.same b
  | string a, string b => a == b
  | array a, array b => sameItems a b
  | object a, object b => sameMembers a b
  | _, _ => false
termination_by structural v => v

def sameItems : List Json → List Json → Bool
  | [], [] => true
  | a :: as, b :: bs => same a b && sameItems as bs
  | _, _ => false
termination_by structural vs => vs

def sameMembers : List (String × Json) → List (String × Json) → Bool
  | [], [] => true
  | (k, a) :: as, (l, b) :: bs => k == l && same a b && sameMembers as bs
  | _, _ => false
termination_by structural vs => vs

end

mutual

def WellFormed : Json → Prop
  | null | bool _ | string _ => True
  | number n => n.WellFormed
  | array items => WellFormedItems items
  | object members => Assoc.Ordered members ∧ WellFormedMembers members
termination_by structural v => v

def WellFormedItems : List Json → Prop
  | [] => True
  | v :: vs => WellFormed v ∧ WellFormedItems vs
termination_by structural vs => vs

def WellFormedMembers : List (String × Json) → Prop
  | [] => True
  | (_, v) :: vs => WellFormed v ∧ WellFormedMembers vs
termination_by structural vs => vs

end

inductive Kind where
  | string | number | boolean | object | array | null
deriving DecidableEq, Repr

def Kind.name : Kind → String
  | string => "string"
  | number => "number"
  | boolean => "boolean"
  | object => "object"
  | array => "array"
  | null => "null"

def Kind.all : List Kind := [.string, .number, .boolean, .object, .array, .null]

def Kind.ofName? (name : String) : Option Kind := Kind.all.find? (·.name == name)

def kind : Json → Kind
  | .string _ => .string
  | .number _ => .number
  | .bool _ => .boolean
  | .object _ => .object
  | .array _ => .array
  | .null => .null

end Json

end MockHttp
