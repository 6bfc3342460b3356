import CoinAddress.Decimal.Layout
import CoinAddress.Text.Quoted

/-!
# Faults in JSON documents

A fault is what a reader meets first. It is one of three kinds: the document ends too early, its
form is broken, or its content is not what is wanted at that place.
-/

namespace CoinAddress.Json

/-- A number as it was read. -/
inductive Number where
  /-- A number without fraction and exponent that fits 64 bits, with or without sign. -/
  | integer (value : Int)
  /-- Any other number, by the bits of its double. -/
  | float (bits : UInt64)
deriving DecidableEq, Repr

/-- Doubles below `10 ^ 16` are written without exponent, and so are fractions from `10 ^ -5` on. -/
def Number.layout : Decimal.Layout where
  leastPositional := -5
  greatestPositional := 15

/-- What stands at a place where something else is wanted. -/
inductive Found where
  /-- The literal `null`. -/
  | null
  /-- The literal `true` or `false`. -/
  | boolean (value : Bool)
  /-- A number. -/
  | number (value : Number)
  /-- A string. -/
  | string (value : String)
  /-- An array. -/
  | sequence
  /-- An object. -/
  | map
deriving DecidableEq, Repr

/-- The description of what stands there. -/
def Found.message : Found → String
  | null => "null"
  | boolean value => s!"boolean `{value}`"
  | number (.integer value) => s!"integer `{value}`"
  | number (.float bits) => s!"floating point `{Number.layout.text bits}`"
  | string value => s!"string {Text.quoted value}"
  | sequence => "sequence"
  | map => "map"

/-- A part of a document that can be cut off. -/
inductive Part where
  /-- A value of any type. -/
  | value
  /-- A string. -/
  | string
  /-- An array. -/
  | list
  /-- An object. -/
  | object
deriving DecidableEq, Repr

/-- The name of the part, with its article. -/
def Part.message : Part → String
  | value => "a value"
  | string => "a string"
  | list => "a list"
  | object => "an object"

/-- Why a document cannot be read. -/
inductive Fault where
  /-- The document ends within the part. -/
  | ended (within : Part)
  /-- No value can start like this. -/
  | expectedValue
  /-- A word is neither `true` nor `false` nor `null`. -/
  | expectedIdent
  /-- No colon follows a key. -/
  | expectedColon
  /-- Neither a comma nor the closing bracket follows an element. -/
  | expectedListEnd
  /-- Neither a comma nor the closing brace follows a member. -/
  | expectedObjectEnd
  /-- A key is not a string. -/
  | keyNotString
  /-- The closing mark follows a comma. -/
  | trailingComma
  /-- Something follows the value. -/
  | trailingCharacters
  /-- A number is malformed. -/
  | badNumber
  /-- A number is too large for a double. -/
  | numberOutOfRange
  /-- A backslash starts no escape. -/
  | badEscape
  /-- An escaped surrogate is not part of a pair. -/
  | loneSurrogate
  /-- No escape follows an escaped leading surrogate. -/
  | unfinishedSurrogate
  /-- A control character stands in a string. -/
  | controlCharacter
  /-- The value has the wrong type. -/
  | wrongType (found : Found) (wanted : String)
  /-- The integer is out of the wanted range. -/
  | wrongValue (value : Int) (wanted : String)
  /-- The array has too few elements. -/
  | wrongLength (length : Nat) (wanted : String)
  /-- A required member is absent. -/
  | missingField (key : String)
  /-- A member occurs a second time. -/
  | duplicateField (key : String)
deriving DecidableEq, Repr

namespace Fault

/-- The kinds of fault. -/
inductive Category where
  /-- The document ends too early. -/
  | ending
  /-- The form is broken. -/
  | form
  /-- The content is not the wanted one. -/
  | content
deriving DecidableEq, Repr

/-- The kind of a fault. -/
def category : Fault → Category
  | ended _ => .ending
  | expectedValue | expectedIdent | expectedColon | expectedListEnd | expectedObjectEnd
  | keyNotString | trailingComma | trailingCharacters | badNumber | numberOutOfRange | badEscape
  | loneSurrogate | unfinishedSurrogate | controlCharacter => .form
  | wrongType .. | wrongValue .. | wrongLength .. | missingField _ | duplicateField _ => .content

/-- The text of a fault. -/
def message : Fault → String
  | ended within => s!"EOF while parsing {within.message}"
  | expectedValue => "expected value"
  | expectedIdent => "expected ident"
  | expectedColon => "expected `:`"
  | expectedListEnd => "expected `,` or `]`"
  | expectedObjectEnd => "expected `,` or `\x7d`"
  | keyNotString => "key must be a string"
  | trailingComma => "trailing comma"
  | trailingCharacters => "trailing characters"
  | badNumber => "invalid number"
  | numberOutOfRange => "number out of range"
  | badEscape => "invalid escape"
  | loneSurrogate => "lone leading surrogate in hex escape"
  | unfinishedSurrogate => "unexpected end of hex escape"
  | controlCharacter => "control character (\\u0000-\\u001F) found while parsing a string"
  | wrongType found wanted => s!"invalid type: {found.message}, expected {wanted}"
  | wrongValue value wanted => s!"invalid value: integer `{value}`, expected {wanted}"
  | wrongLength length wanted => s!"invalid length {length}, expected {wanted}"
  | missingField key => s!"missing field `{key}`"
  | duplicateField key => s!"duplicate field `{key}`"

end Fault

/-- The text after leading blanks. -/
def skipBlanks (text : List Char) : List Char :=
  text.dropWhile fun c => c = ' ' ∨ c = '\n' ∨ c = '\t' ∨ c = '\r'

/-- The text after a word, of which the first letter has been read. -/
def readWord : List Char → List Char → Except Fault (List Char)
  | [], text => .ok text
  | _ :: _, [] => .error (.ended .value)
  | letter :: word, c :: text => if c = letter then readWord word text else .error .expectedIdent

end CoinAddress.Json
