import Provenance.Json.Basic
import Provenance.Text.Quoted

/-!
# Why a JSON text is refused

A reader that cannot go on reports a cause and how much of the text it had not read yet.
Positions are found from that only when a report is needed.  Lines and columns count bytes of the
UTF-8 form of the text.
-/

namespace Provenance.Json

/-- What stands where something else was wanted. -/
inductive Found where
  | null
  | bool (value : Bool)
  | number (value : Number)
  | text (value : String)
  | list
  | object

/-- The name of what was found. -/
def Found.describe : Found → String
  | null => "null"
  | bool b => "boolean `" ++ (if b then "true" else "false") ++ "`"
  | number (.int z) => "integer `" ++ String.ofList (intText z) ++ "`"
  | number (.real x) => "floating point `" ++ String.ofList (realText x) ++ "`"
  | text s => "string " ++ Text.quoted s
  | list => "sequence"
  | object => "map"

/-- Reasons to refuse a text. -/
inductive Cause where
  | endInValue
  | endInList
  | endInObject
  | endInString
  | missingColon
  | missingListComma
  | missingObjectComma
  | misspeltLiteral
  | missingValue
  | invalidEscape
  | invalidNumber
  | numberOutOfRange
  | unpairedSurrogate
  | brokenSurrogatePair
  | keyNotString
  | controlCharacter
  | trailingComma
  | trailingCharacters
  | tooDeep
  | wrongKind (found : Found) (wanted : String)
  | wrongValue (found : Found) (wanted : String)
  | repeatedField (name : String)

/-- The wording of a cause. -/
def Cause.describe : Cause → String
  | endInValue => "EOF while parsing a value"
  | endInList => "EOF while parsing a list"
  | endInObject => "EOF while parsing an object"
  | endInString => "EOF while parsing a string"
  | missingColon => "expected `:`"
  | missingListComma => "expected `,` or `]`"
  | missingObjectComma => "expected `,` or `\x7d`"
  | misspeltLiteral => "expected ident"
  | missingValue => "expected value"
  | invalidEscape => "invalid escape"
  | invalidNumber => "invalid number"
  | numberOutOfRange => "number out of range"
  | unpairedSurrogate => "lone leading surrogate in hex escape"
  | brokenSurrogatePair => "unexpected end of hex escape"
  | keyNotString => "key must be a string"
  | controlCharacter => "control character (\\u0000-\\u001F) found while parsing a string"
  | trailingComma => "trailing comma"
  | trailingCharacters => "trailing characters"
  | tooDeep => "recursion limit exceeded"
  | wrongKind found wanted => "invalid type: " ++ found.describe ++ ", expected " ++ wanted
  | wrongValue found wanted => "invalid value: " ++ found.describe ++ ", expected " ++ wanted
  | repeatedField name => "duplicate field `" ++ name ++ "`"

/-- Where reading stopped: `rest` was not read, and the report points `ahead` bytes into it. -/
structure Stop where
  cause : Cause
  rest : List Char
  ahead : Nat

/-- A line from 1 and a column of bytes from 0. -/
structure Position where
  line : Nat
  column : Nat
  deriving DecidableEq, Repr

/-- The bytes of the UTF-8 form. -/
def byteCount (cs : List Char) : Nat := cs.foldl (fun n c => n + c.utf8Size) 0

/-- Move a position over the first `count` bytes of the characters. -/
def Position.advance (p : Position) : List Char → (count : Nat) → Position
  | [], _ => p
  | c :: cs, count =>
    if count = 0 then p
    else if count < c.utf8Size then ⟨p.line, p.column + count⟩
    else if c = '\n' then Position.advance ⟨p.line + 1, 0⟩ cs (count - c.utf8Size)
    else Position.advance ⟨p.line, p.column + c.utf8Size⟩ cs (count - c.utf8Size)

/-- A refused text: the cause and the place. -/
structure Fault where
  cause : Cause
  position : Position

/-- Place a stop in the text that was read. -/
def Stop.locate (stop : Stop) (text : List Char) : Fault where
  cause := stop.cause
  position := Position.advance ⟨1, 0⟩ text (byteCount text - byteCount stop.rest + stop.ahead)

/-- The report of a fault. -/
def Fault.message (f : Fault) : String :=
  f.cause.describe ++ " at line " ++ toString f.position.line ++ " column " ++
    toString f.position.column

end Provenance.Json
