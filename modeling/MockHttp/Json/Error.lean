import MockHttp.Numeric.Shortest
import MockHttp.Text.Quoted

/-! # Why a JSON text is refused

A text may break the grammar, end too early, or hold a value of another shape than the one that
is wanted. Each cause has one wording.
-/

namespace MockHttp.Json

inductive Found where
  | null
  | bool (b : Bool)
  | integer (n : Int)
  | float (x : Binary64)
  | string (s : String)
  | sequence
  | map
deriving DecidableEq, Repr

inductive Error where
  | endOfList
  | endOfObject
  | endOfString
  | endOfValue
  | expectedColon
  | expectedCommaOrBracket
  | expectedCommaOrBrace
  | expectedWord
  | expectedValue
  | badEscape
  | badNumber
  | numberTooLarge
  | badEncoding
  | controlCharacter
  | keyNotString
  | loneSurrogate
  | unfinishedSurrogatePair
  | trailingComma
  | trailingCharacters
  | tooDeep
  | wrongType (found : Found) (wanted : String)
  | wrongValue (found : Found) (wanted : String)
  | wrongLength (length : Nat) (wanted : String)
  | missingField (name : String)
  | duplicateField (name : String)
  | unknownVariant (name : String) (variants : List String)
deriving DecidableEq, Repr

inductive Error.Category where
  | grammar | shape | endOfText
deriving DecidableEq, Repr

namespace Error

def category : Error → Category
  | endOfList | endOfObject | endOfString | endOfValue => .endOfText
  | wrongType .. | wrongValue .. | wrongLength .. | missingField _ | duplicateField _
  | unknownVariant .. => .shape
  | _ => .grammar

def inTicks (s : String) : String := "`" ++ s ++ "`"

def foundText : Found → String
  | .null => "null"
  | .bool b => "boolean " ++ inTicks (if b then "true" else "false")
  | .integer n => "integer " ++ inTicks (Digits.intText n)
  | .float x => "floating point " ++ inTicks (String.ofList x.text)
  | .string s => "string " ++ Text.quoted s
  | .sequence => "sequence"
  | .map => "map"

def variantsText : List String → String
  | [a] => inTicks a
  | [a, b] => inTicks a ++ " or " ++ inTicks b
  | variants => "one of " ++ ", ".intercalate (variants.map inTicks)

def message : Error → String
  | endOfList => "EOF while parsing a list"
  | endOfObject => "EOF while parsing an object"
  | endOfString => "EOF while parsing a string"
  | endOfValue => "EOF while parsing a value"
  | expectedColon => "expected `:`"
  | expectedCommaOrBracket => "expected `,` or `]`"
  | expectedCommaOrBrace => "expected `,` or `\x7d`"
  | expectedWord => "expected ident"
  | expectedValue => "expected value"
  | badEscape => "invalid escape"
  | badNumber => "invalid number"
  | numberTooLarge => "number out of range"
  | badEncoding => "invalid unicode code point"
  | controlCharacter => "control character (\\u0000-\\u001F) found while parsing a string"
  | keyNotString => "key must be a string"
  | loneSurrogate => "lone leading surrogate in hex escape"
  | unfinishedSurrogatePair => "unexpected end of hex escape"
  | trailingComma => "trailing comma"
  | trailingCharacters => "trailing characters"
  | tooDeep => "recursion limit exceeded"
  | wrongType found wanted => "invalid type: " ++ foundText found ++ ", expected " ++ wanted
  | wrongValue found wanted => "invalid value: " ++ foundText found ++ ", expected " ++ wanted
  | wrongLength length wanted =>
    "invalid length " ++ Digits.text length ++ ", expected " ++ wanted
  | missingField name => "missing field " ++ inTicks name
  | duplicateField name => "duplicate field " ++ inTicks name
  | unknownVariant name variants =>
    "unknown variant " ++ inTicks name ++ ", expected " ++ variantsText variants

end Error

end MockHttp.Json
