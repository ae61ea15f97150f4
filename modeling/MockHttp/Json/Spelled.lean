import MockHttp.Json.Basic
import MockHttp.Numeric.Literal
import MockHttp.Text.Blank

/-! # Values as numbers -/

namespace MockHttp.Json

/-- The finite number that a value is or spells, blanks around it left out. -/
def spelledNumber? : Json → Option Binary64
  | number n => some n.toBinary64
  | string s => (Binary64.literal? (Text.trimmed s.toList)).bind Binary64.Extended.finite?
  | _ => none

def clampInt (n : Int) : Int := max (-0x8000000000000000) (min n 0x7FFFFFFFFFFFFFFF)

end MockHttp.Json
