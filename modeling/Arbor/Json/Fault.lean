-- Why a JSON source is refused, and where.
namespace Arbor.Json

inductive Expected where
  | node
  | string
  | list
deriving DecidableEq

def Expected.text : Expected → String
  | .node => "struct TreeNode"
  | .string => "a string"
  | .list => "a sequence"

inductive Found where
  | null
  | boolean (value : Bool)
  | integer (shown : String)
  | decimal (shown : String)
  | string (shown : String)
  | list
  | object
deriving DecidableEq

def Found.text : Found → String
  | .null => "null"
  | .boolean true => "boolean `true`"
  | .boolean false => "boolean `false`"
  | .integer shown => "integer `" ++ shown ++ "`"
  | .decimal shown => "floating point `" ++ shown ++ "`"
  | .string shown => "string " ++ shown
  | .list => "sequence"
  | .object => "map"

inductive Key where
  | kind
  | value
  | children
deriving DecidableEq

def Key.name : Key → String
  | .kind => "kind"
  | .value => "value"
  | .children => "children"

inductive Cause where
  | endOfValue
  | endOfObject
  | endOfList
  | endOfString
  | expectedValue
  | expectedColon
  | expectedCommaOrBrace
  | expectedCommaOrBracket
  | keyNotString
  | trailingComma
  | trailingCharacters
  | unknownWord
  | invalidNumber
  | numberOutOfRange
  | controlCharacter
  | invalidEscape
  | loneSurrogate
  | unfinishedEscape
  | missingKind
  | duplicate (key : Key)
  | noElements
  | mismatch (found : Found) (expected : Expected)
deriving DecidableEq

def Cause.text : Cause → String
  | .endOfValue => "EOF while parsing a value"
  | .endOfObject => "EOF while parsing an object"
  | .endOfList => "EOF while parsing a list"
  | .endOfString => "EOF while parsing a string"
  | .expectedValue => "expected value"
  | .expectedColon => "expected `:`"
  | .expectedCommaOrBrace => "expected `,` or `\x7d`"
  | .expectedCommaOrBracket => "expected `,` or `]`"
  | .keyNotString => "key must be a string"
  | .trailingComma => "trailing comma"
  | .trailingCharacters => "trailing characters"
  | .unknownWord => "expected ident"
  | .invalidNumber => "invalid number"
  | .numberOutOfRange => "number out of range"
  | .controlCharacter => "control character (\\u0000-\\u001F) found while parsing a string"
  | .invalidEscape => "invalid escape"
  | .loneSurrogate => "lone leading surrogate in hex escape"
  | .unfinishedEscape => "unexpected end of hex escape"
  | .missingKind => "missing field `kind`"
  | .duplicate key => "duplicate field `" ++ key.name ++ "`"
  | .noElements => "invalid length 0, expected struct TreeNode with 3 elements"
  | .mismatch found expected =>
    "invalid type: " ++ found.text ++ ", expected " ++ expected.text

-- The text that was unread when the cause was found, and how many bytes of it belong to the
-- culprit.
structure Fault where
  cause : Cause
  rest : List Char
  taken : Nat
deriving DecidableEq

-- Lines count from 1, and the column is the number of bytes before the place on its line.
structure Place where
  line : Nat
  column : Nat
deriving DecidableEq

def lineFeed : UInt8 := 10

def Place.behind (bytes : List UInt8) : Place :=
  ⟨1 + bytes.count lineFeed, (bytes.reverse.takeWhile (· != lineFeed)).length⟩

def bytes (text : List Char) : List UInt8 := text.flatMap String.utf8EncodeChar

def byteCount (text : List Char) : Nat := text.foldl (fun n c => n + c.utf8Size) 0

-- The place never lies beyond the end of the source.
def Fault.place (fault : Fault) (source : List Char) : Place :=
  .behind ((bytes source).take (byteCount source - byteCount fault.rest + fault.taken))

def Fault.at (cause : Cause) (rest : List Char) : Fault := ⟨cause, rest, 1⟩

def Fault.behind (cause : Cause) (rest : List Char) : Fault := ⟨cause, rest, 0⟩

def isBlank (c : Char) : Bool := c = ' ' || c = '\t' || c = '\n' || c = '\r'

def skipBlank (text : List Char) : List Char := text.dropWhile isBlank

theorem skipBlank_length_le (text : List Char) : (skipBlank text).length ≤ text.length :=
  (List.dropWhile_suffix isBlank).length_le

theorem lt_of_skipBlank {text rest : List Char} {c : Char} (ahead : skipBlank text = c :: rest) :
    rest.length < text.length := by
  have shorter := skipBlank_length_le text
  rw [ahead, List.length_cons] at shorter
  exact shorter

end Arbor.Json
