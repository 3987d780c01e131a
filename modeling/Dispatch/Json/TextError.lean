import Dispatch.Json.Basic

namespace Dispatch

/-- What the end of a text cuts short. -/
inductive Unfinished where
  | value
  | string
  | list
  | object
deriving DecidableEq

/-- The part that has no end, in words. -/
def Unfinished.name : Unfinished → String
  | .value => "a value"
  | .string => "a string"
  | .list => "a list"
  | .object => "an object"

/-- How a text breaks the rules. -/
inductive Malformation where
  | expectedColon
  | expectedListEnd
  | expectedObjectEnd
  | expectedWord
  | expectedValue
  | invalidEscape
  | invalidNumber
  /-- A number past the largest double. -/
  | numberOutOfRange
  /-- A control character that is not written as an escape. -/
  | bareControl
  /-- A name in an object that is not a string. -/
  | unquotedName
  /-- A trailing surrogate without a leading one, or a leading one before anything else. -/
  | loneSurrogate
  /-- A leading surrogate that no escape follows. -/
  | brokenPair
  | trailingComma
  | trailingCharacters
  | tooDeep
deriving DecidableEq

/-- The rule that is broken, in words. -/
def Malformation.message : Malformation → String
  | .expectedColon => "expected `:`"
  | .expectedListEnd => "expected `,` or `]`"
  | .expectedObjectEnd => "expected `,` or `\x7d`"
  | .expectedWord => "expected ident"
  | .expectedValue => "expected value"
  | .invalidEscape => "invalid escape"
  | .invalidNumber => "invalid number"
  | .numberOutOfRange => "number out of range"
  | .bareControl => "control character (\\u0000-\\u001F) found while parsing a string"
  | .unquotedName => "key must be a string"
  | .loneSurrogate => "lone leading surrogate in hex escape"
  | .brokenPair => "unexpected end of hex escape"
  | .trailingComma => "trailing comma"
  | .trailingCharacters => "trailing characters"
  | .tooDeep => "recursion limit exceeded"

/-- What is wrong with a text: it ends early, is malformed, or holds data that does not fit. -/
inductive TextFault where
  | early (part : Unfinished)
  | malformed (how : Malformation)
  | data (message : String)
deriving DecidableEq

namespace TextFault

/-- The code that callers branch on. -/
def code : TextFault → String
  | .early _ => "JSON_EOF"
  | .malformed _ => "JSON_SYNTAX"
  | .data _ => "JSON_DATA"

/-- The kind of fault; only data that does not fit is told in detail. -/
def summary : TextFault → String
  | .early _ => "json ended early"
  | .malformed _ => "json syntax error"
  | .data message => message

/-- The fault in detail. -/
def message : TextFault → String
  | .early part => "EOF while parsing " ++ part.name
  | .malformed how => how.message
  | .data message => message

end TextFault

/-- A fault and its place: lines are counted from one, columns are bytes. -/
structure TextError where
  fault : TextFault
  line : Nat
  column : Nat
deriving DecidableEq

/-- The fault in detail, and its place. -/
def TextError.message (error : TextError) : String :=
  error.fault.message ++ " at line " ++ Nat.repr error.line ++ " column " ++ Nat.repr error.column

namespace Json

/-- How many bytes characters take. -/
def byteCount : List Char → Nat
  | [] => 0
  | c :: cs => c.utf8Size + byteCount cs

/-- Line and column behind so many bytes; a place may lie within a character. -/
def placeAfter (line column : Nat) : Nat → List Char → Nat × Nat
  | _, [] => (line, column)
  | bytes, c :: cs =>
    if bytes < c.utf8Size then (line, column + bytes)
    else if c = '\n' then placeAfter (line + 1) 0 (bytes - 1) cs
    else placeAfter line (column + c.utf8Size) (bytes - c.utf8Size) cs

/-- A fault that a reader met, and how many bytes of the text lie behind it. -/
structure Obstacle where
  fault : TextFault
  left : Nat
deriving DecidableEq

/-- The obstacle as an error of the text that was read. -/
def Obstacle.locate (text : List Char) (obstacle : Obstacle) : TextError :=
  let place := placeAfter 1 0 (byteCount text - obstacle.left) text
  ⟨obstacle.fault, place.1, place.2⟩

/-- What a reader comes to. -/
abbrev Reading := Except Obstacle

/-- A fault in front of these characters. -/
def failBefore {α : Type} (fault : TextFault) (cs : List Char) : Reading α :=
  .error ⟨fault, byteCount cs⟩

/-- A fault behind so many bytes of these characters, or at the end of the text if they are fewer. -/
def failBehind {α : Type} (bytes : Nat) (fault : TextFault) (cs : List Char) : Reading α :=
  .error ⟨fault, byteCount cs - bytes⟩

/-- The first byte of these characters is one too many, or the text ends here. -/
def failAt {α : Type} (fault : TextFault) (cs : List Char) : Reading α := failBehind 1 fault cs

/-- A text that ends before its time. -/
def endsEarly {α : Type} (part : Unfinished) : Reading α := failBefore (.early part) []

example : placeAfter 1 0 5 ['a', '\n', 'é', 'b'] = (2, 3) := by decide +kernel
example : placeAfter 1 0 3 ['a', '\n', 'é', 'b'] = (2, 1) := by decide +kernel

end Json

end Dispatch
