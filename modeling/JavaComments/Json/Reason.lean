import JavaComments.Text.Literal
import JavaComments.Decimal.Spelling

namespace JavaComments.Json

/-- What stands where another kind of value is wanted. -/
inductive Found where
  | null
  | bool (value : Bool)
  | integer (value : Int)
  | double (bits : UInt64)
  | string (text : Text)
  | list
  | object
deriving DecidableEq

inductive Expected where
  | string
  | list
  | record (name : Text)
deriving DecidableEq

inductive Reason where
  | endOfValue
  | endOfList
  | endOfObject
  | endOfString
  | expectedValue
  | expectedWord
  | expectedColon
  | expectedCommaOrBracket
  | expectedCommaOrBrace
  | keyNotString
  | trailingComma
  | trailingCharacters
  | controlCharacter
  | invalidEscape
  | loneSurrogate
  | unfinishedSurrogatePair
  | invalidNumber
  | numberOutOfRange
  | wrongType (found : Found) (expected : Expected)
  | unknownField (key : Text) (known : List Text)
  | duplicateField (key : Text)
  | missingField (key : Text)
  | wrongLength (present : Nat) (name : Text) (wanted : Nat)
  | unknownVariant (key : Text) (known : List Text)
  | bareVariant
deriving DecidableEq

def quoted (text : Text) : Text := '\x60' :: text ++ ['\x60']

def Found.message : Found → Text
  | null => "null".toList
  | bool value => "boolean ".toList ++ quoted (Text.ofBool value)
  | integer value => "integer ".toList ++ quoted (Decimal.ofInt value)
  | double bits => "floating point ".toList ++ quoted (Decimal.ofDouble bits)
  | string text => "string ".toList ++ text.literal
  | list => "sequence".toList
  | object => "map".toList

def Expected.message : Expected → Text
  | string => "a string".toList
  | list => "a sequence".toList
  | record name => "struct ".toList ++ name

/-- Names two alternatives directly and more of them as a list. -/
def oneOf : List Text → Text
  | [first, second] => quoted first ++ " or ".toList ++ quoted second
  | names => "one of ".toList ++ ", ".toList.intercalate (names.map quoted)

def Reason.message : Reason → Text
  | endOfValue => "EOF while parsing a value".toList
  | endOfList => "EOF while parsing a list".toList
  | endOfObject => "EOF while parsing an object".toList
  | endOfString => "EOF while parsing a string".toList
  | expectedValue => "expected value".toList
  | expectedWord => "expected ident".toList
  | expectedColon => "expected `:`".toList
  | expectedCommaOrBracket => "expected `,` or `]`".toList
  | expectedCommaOrBrace => "expected `,` or `\x7d`".toList
  | keyNotString => "key must be a string".toList
  | trailingComma => "trailing comma".toList
  | trailingCharacters => "trailing characters".toList
  | controlCharacter =>
    "control character (\\u0000-\\u001F) found while parsing a string".toList
  | invalidEscape => "invalid escape".toList
  | loneSurrogate => "lone leading surrogate in hex escape".toList
  | unfinishedSurrogatePair => "unexpected end of hex escape".toList
  | invalidNumber => "invalid number".toList
  | numberOutOfRange => "number out of range".toList
  | wrongType found expected =>
    "invalid type: ".toList ++ found.message ++ ", expected ".toList ++ expected.message
  | unknownField key known =>
    "unknown field ".toList ++ quoted key ++ ", expected ".toList ++ oneOf known
  | duplicateField key => "duplicate field ".toList ++ quoted key
  | missingField key => "missing field ".toList ++ quoted key
  | wrongLength present name wanted =>
    "invalid length ".toList ++ Text.ofNat present ++ ", expected struct ".toList ++ name ++
      " with ".toList ++ Text.ofNat wanted ++ " elements".toList
  | unknownVariant key known =>
    "unknown variant ".toList ++ quoted key ++ ", expected ".toList ++ oneOf known
  | bareVariant => "invalid type: unit variant, expected newtype variant".toList

end JavaComments.Json
