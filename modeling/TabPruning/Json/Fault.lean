import TabPruning.Text.Quoted
import TabPruning.Decimal

namespace TabPruning.Json

-- A number as it was read, without its spelling.
inductive Number
  | integer (n : Int)
  | floating (x : Float)

-- What was found where another type was expected.
inductive Found
  | null
  | bool (b : Bool)
  | number (n : Number)
  | string (s : String)
  | sequence
  | map

inductive Cause
  | endInValue
  | endInList
  | endInObject
  | endInString
  | expectedColon
  | expectedListCommaOrEnd
  | expectedObjectCommaOrEnd
  | expectedValue
  | expectedIdent
  | invalidEscape
  | invalidNumber
  | numberOutOfRange
  | controlCharacter
  | keyNotString
  | loneSurrogate
  | unexpectedEndOfHexEscape
  | trailingComma
  | trailingCharacters
  | wrongType (found : Found) (expected : String)
  | unknownVariant (name : String) (known : List String)
  | duplicateField (name : String)

-- Numbers are written without an exponent from `0.00001` to below ten to the sixteenth.
def numberLayout : Decimal.Layout :=
  ⟨-4, 16, ['+']⟩

def floatText (x : Float) : String :=
  String.ofList (Decimal.writeBits x.toBits numberLayout)

def Number.text : Number → String
  | integer n  => s!"integer `{n}`"
  | floating x => s!"floating point `{floatText x}`"

def Found.text : Found → String
  | null     => "null"
  | bool b   => s!"boolean `{b}`"
  | number n => n.text
  | string s => s!"string {quoted s}"
  | sequence => "sequence"
  | map      => "map"

def backticked (s : String) : String :=
  "`" ++ s ++ "`"

def oneOf : List String → String
  | []     => "there are no variants"
  | [a]    => backticked a
  | [a, b] => backticked a ++ " or " ++ backticked b
  | names  => "one of " ++ ", ".intercalate (names.map backticked)

def Cause.text : Cause → String
  | endInValue               => "EOF while parsing a value"
  | endInList                => "EOF while parsing a list"
  | endInObject              => "EOF while parsing an object"
  | endInString              => "EOF while parsing a string"
  | expectedColon            => "expected `:`"
  | expectedListCommaOrEnd   => "expected `,` or `]`"
  | expectedObjectCommaOrEnd => "expected `,` or `\x7d`"
  | expectedValue            => "expected value"
  | expectedIdent            => "expected ident"
  | invalidEscape            => "invalid escape"
  | invalidNumber            => "invalid number"
  | numberOutOfRange         => "number out of range"
  | controlCharacter         => "control character (\\u0000-\\u001F) found while parsing a string"
  | keyNotString             => "key must be a string"
  | loneSurrogate            => "lone leading surrogate in hex escape"
  | unexpectedEndOfHexEscape => "unexpected end of hex escape"
  | trailingComma            => "trailing comma"
  | trailingCharacters       => "trailing characters"
  | wrongType found expected => "invalid type: " ++ found.text ++ ", expected " ++ expected
  | unknownVariant s known   => "unknown variant " ++ backticked s ++ ", expected " ++ oneOf known
  | duplicateField s         => "duplicate field " ++ backticked s

-- A cause together with its place in the text, where columns are counted in bytes.
structure Fault where
  cause  : Cause
  line   : Nat
  column : Nat

def Fault.message (f : Fault) : String :=
  s!"{f.cause.text} at line {f.line} column {f.column}"

def byteLength (cs : List Char) : Nat :=
  cs.foldr (·.utf8Size + ·) 0

-- Reading stopped, with this many bytes of the text not yet used.
structure Stop where
  cause     : Cause
  bytesLeft : Nat

namespace Stop

-- Everything up to `rest` was used.
def here (cause : Cause) (rest : List Char) : Stop :=
  ⟨cause, byteLength rest⟩

-- This many bytes of `rest` were used too, or all that there are.
def past (bytes : Nat) (cause : Cause) (rest : List Char) : Stop :=
  ⟨cause, byteLength rest - bytes⟩

-- The place of the byte with this offset, and of the end of the text beyond it.
def locate (offset line column : Nat) : List Char → Nat × Nat
  | []      => (line, column)
  | c :: cs =>
    if offset = 0 then (line, column)
    else if c = '\n' then locate (offset - 1) (line + 1) 0 cs
    else locate (offset - c.utf8Size) line (column + min offset c.utf8Size) cs

def toFault (s : Stop) (text : List Char) : Fault :=
  let (line, column) := locate (byteLength text - s.bytesLeft) 1 0 text
  ⟨s.cause, line, column⟩

end Stop

end TabPruning.Json
