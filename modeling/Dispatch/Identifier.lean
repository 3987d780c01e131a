import Dispatch.Text.Alphanumeric
import Dispatch.Text.Blank

namespace Dispatch

namespace Identifier

/-- What an identifier of some kind may look like. -/
structure Rules where
  /-- The most bytes that an identifier may have. -/
  maxLength : Nat
  allowDots : Bool
  allowColons : Bool
  /-- Steps to another directory are refused as such. -/
  refuseTraversal : Bool
  /-- Blank characters around the identifier are dropped instead of refused. -/
  trims : Bool
deriving DecidableEq

/-- Colons are kept for qualified names. -/
def Rules.action : Rules := ⟨128, true, false, true, false⟩

/-- Neither dots nor colons, so that qualified names can be taken apart. -/
def Rules.targetSystem : Rules := ⟨64, false, false, true, true⟩

/-- Dots are admitted, colons are kept for cache keys. -/
def Rules.manager : Rules := ⟨64, true, false, true, true⟩

/-- Why a text is no identifier. -/
inductive Fault where
  | empty
  | blank
  | padded
  | tooLong (length limit : Nat)
  | invalidCharacter (character : Char) (text : String)
  | traversal
deriving DecidableEq

namespace Fault

/-- The code that callers branch on. -/
def code : Fault → String
  | .empty => "EMPTY"
  | .blank => "WHITESPACE_ONLY"
  | .padded => "LEADING_TRAILING_WHITESPACE"
  | .tooLong .. => "TOO_LONG"
  | .invalidCharacter .. => "INVALID_CHAR"
  | .traversal => "PATH_TRAVERSAL"

/-- The fault in words, with the text that it was found in where that helps. -/
def message : Fault → String
  | .empty => "Identifier cannot be empty"
  | .blank => "Identifier cannot be whitespace-only"
  | .padded => "Identifier cannot have leading or trailing whitespace"
  | .tooLong length limit =>
    "Identifier too long: " ++ Nat.repr length ++ " characters (max " ++ Nat.repr limit ++ ")"
  | .invalidCharacter c text =>
    "Identifier '" ++ text ++ "' contains invalid character '" ++ String.singleton c ++ "'"
  | .traversal => "Identifier cannot contain path traversal sequences (../)"

end Fault

/-- Characters of an identifier. -/
def Rules.allows (rules : Rules) (c : Char) : Bool :=
  Text.isAlphanumeric c || c = '_' || c = '-' || (c = '.' && rules.allowDots)
    || (c = ':' && rules.allowColons)

/-- A dot before a slash, which every step to another directory contains. -/
def hasStep : List Char → Bool
  | '.' :: '/' :: _ => true
  | _ :: rest => hasStep rest
  | [] => false

/-- The identifier that a text stands for. -/
def Rules.normalize (rules : Rules) (text : String) : Except Fault String :=
  let core := if rules.trims then Text.trim text else text
  if core.isEmpty then .error .empty
  else if !rules.trims ∧ Text.isAllBlank text then .error .blank
  else if !rules.trims ∧ text ≠ Text.trim text then .error .padded
  else if rules.maxLength < core.utf8ByteSize then .error (.tooLong core.utf8ByteSize rules.maxLength)
  else if rules.refuseTraversal ∧ hasStep core.toList then .error .traversal
  else
    match core.toList.find? fun c => !rules.allows c with
    | some c => .error (.invalidCharacter c core)
    | none => .ok core

end Identifier

end Dispatch
