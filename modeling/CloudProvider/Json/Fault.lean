import CloudProvider.Json.Basic
import CloudProvider.Text.Quoted

/-!
What can be wrong with a document, and how it is told. A fault is of the text (its end or its grammar)
or of the content (a value is not what is wanted in its place).
-/

namespace CloudProvider.Json

/-- What was found where something else was wanted. -/
inductive Found where
  | null
  | bool (b : Bool)
  | num (n : Number)
  | str (s : String)
  | list
  | object
  deriving DecidableEq

namespace Found

def describe : Found → String
  | .null => "null"
  | .bool b => s!"boolean `{b}`"
  | .num (.real x) => s!"floating point `{String.ofList (Decimal.document.write x)}`"
  | .num n => s!"integer `{String.ofList n.chars}`"
  | .str s => s!"string {Text.quoted s}"
  | .list => "sequence"
  | .object => "map"

def ofJson : Json → Found
  | .null => .null
  | .bool b => .bool b
  | .num n => .num n
  | .str s => .str s
  | .arr _ => .list
  | .obj _ => .object

end Found

inductive Fault where
  | endInValue
  | endInList
  | endInObject
  | endInText
  | expectedColon
  | expectedListSeparator
  | expectedObjectSeparator
  | expectedLiteral
  | expectedValue
  | invalidEscape
  | invalidNumber
  | numberOutOfRange
  | controlCharacter
  | keyNotText
  | loneSurrogate
  | endOfEscape
  | trailingComma
  | trailingCharacters
  | nestingTooDeep
  | wrongKind (found : Found) (expected : String)
  | wrongValue (found : Found) (expected : String)
  | wrongLength (length : Nat) (expected : String)
  | unknownVariant (name : String) (known : List String)
  | missingField (name : String)
  | duplicateField (name : String)
  deriving DecidableEq

inductive Fault.Category where
  | ended
  | grammar
  | content
  deriving DecidableEq, Repr

namespace Fault

def category : Fault → Category
  | .endInValue | .endInList | .endInObject | .endInText => .ended
  | .wrongKind .. | .wrongValue .. | .wrongLength .. | .unknownVariant .. | .missingField _
  | .duplicateField _ => .content
  | _ => .grammar

/-- The names to choose from. -/
def choices : List String → String
  | [] => "there are no variants"
  | [a] => s!"expected `{a}`"
  | [a, b] => s!"expected `{a}` or `{b}`"
  | names => "expected one of " ++ ", ".intercalate (names.map fun n => s!"`{n}`")

def message : Fault → String
  | .endInValue => "EOF while parsing a value"
  | .endInList => "EOF while parsing a list"
  | .endInObject => "EOF while parsing an object"
  | .endInText => "EOF while parsing a string"
  | .expectedColon => "expected `:`"
  | .expectedListSeparator => "expected `,` or `]`"
  | .expectedObjectSeparator => "expected `,` or `\x7d`"
  | .expectedLiteral => "expected ident"
  | .expectedValue => "expected value"
  | .invalidEscape => "invalid escape"
  | .invalidNumber => "invalid number"
  | .numberOutOfRange => "number out of range"
  | .controlCharacter => "control character (\\u0000-\\u001F) found while parsing a string"
  | .keyNotText => "key must be a string"
  | .loneSurrogate => "lone leading surrogate in hex escape"
  | .endOfEscape => "unexpected end of hex escape"
  | .trailingComma => "trailing comma"
  | .trailingCharacters => "trailing characters"
  | .nestingTooDeep => "recursion limit exceeded"
  | .wrongKind found expected => s!"invalid type: {found.describe}, expected {expected}"
  | .wrongValue found expected => s!"invalid value: {found.describe}, expected {expected}"
  | .wrongLength length expected => s!"invalid length {length}, expected {expected}"
  | .unknownVariant name known => s!"unknown variant `{name}`, {choices known}"
  | .missingField name => s!"missing field `{name}`"
  | .duplicateField name => s!"duplicate field `{name}`"

end Fault
end CloudProvider.Json
