import Dispatch.Json.Basic
import Dispatch.Number.Shortest
import Dispatch.Text.Quoted

namespace Dispatch

namespace Json

/-- Doubles are positional from a hundred-thousandth up to sixteen digits before the point. -/
def doubleLayout : Double.Layout := ⟨-5, 15, "+"⟩

/-- A number of 16 bits in four hexadecimal digits. -/
def hex4 (n : Nat) : List Char :=
  let digits := Text.hexDigits n
  List.replicate (4 - digits.length) '0' ++ digits

/-- A character by its code point. -/
def escapeCode (c : Char) : List Char := '\\' :: 'u' :: hex4 c.toNat

/-- Control characters have short escapes where there are any. -/
def escapeChar (c : Char) : List Char :=
  if c = '"' then ['\\', '"']
  else if c = '\\' then ['\\', '\\']
  else if c.toNat < 0x20 then
    if c.toNat = 0x08 then ['\\', 'b']
    else if c.toNat = 0x09 then ['\\', 't']
    else if c.toNat = 0x0A then ['\\', 'n']
    else if c.toNat = 0x0C then ['\\', 'f']
    else if c.toNat = 0x0D then ['\\', 'r']
    else escapeCode c
  else [c]

/-- A text between quotes. -/
def printString (s : String) : List Char := '"' :: s.toList.flatMap escapeChar ++ ['"']

/-- The decimal digits of an integer, with a minus sign in front of a negative one. -/
def printInt (n : Int) : List Char :=
  if n < 0 then '-' :: (Nat.repr n.natAbs).toList else (Nat.repr n.natAbs).toList

mutual

/-- The characters of a value. -/
def print : Json → List Char
  | .null => ['n', 'u', 'l', 'l']
  | .bool true => ['t', 'r', 'u', 'e']
  | .bool false => ['f', 'a', 'l', 's', 'e']
  | .int n => printInt n
  | .double d => (d.text doubleLayout).toList
  | .string s => printString s
  | .array items => '[' :: printItems items ++ [']']
  | .object entries => '\x7b' :: printEntries entries ++ ['\x7d']

/-- Commas stand between items. -/
def printItems : List Json → List Char
  | [] => []
  | [item] => item.print
  | item :: next :: rest => item.print ++ ',' :: printItems (next :: rest)

/-- Commas stand between entries, and a colon after each name. -/
def printEntries : List (String × Json) → List Char
  | [] => []
  | [(name, item)] => printString name ++ ':' :: item.print
  | (name, item) :: next :: rest =>
    printString name ++ ':' :: item.print ++ ',' :: printEntries (next :: rest)

end

/-- The compact text of a value. -/
def text (value : Json) : String := String.ofList value.print

/-- Separators of lines and paragraphs are escaped too, so that the text stays on one line anywhere. -/
def line (value : Json) : String :=
  String.ofList (value.print.flatMap fun c =>
    if c.toNat = 0x85 ∨ c.toNat = 0x2028 ∨ c.toNat = 0x2029 then escapeCode c else [c])

mutual

/-- The value as logs show it, with the kind of every node written out. -/
def inspect : Json → String
  | .null => "Null"
  | .bool true => "Bool(true)"
  | .bool false => "Bool(false)"
  | .int n => "Number(" ++ String.ofList (printInt n) ++ ")"
  | .double d => "Number(" ++ d.text doubleLayout ++ ")"
  | .string s => "String(" ++ Text.quoted s ++ ")"
  | .array items => "Array " ++ Text.bracketed (inspectItems items)
  | .object entries => "Object " ++ Text.braced (inspectEntries entries)

/-- Each item as logs show it. -/
def inspectItems : List Json → List String
  | [] => []
  | item :: rest => item.inspect :: inspectItems rest

/-- Each entry as logs show it. -/
def inspectEntries : List (String × Json) → List String
  | [] => []
  | (name, item) :: rest => (Text.quoted name ++ ": " ++ item.inspect) :: inspectEntries rest

end

/-- A table as logs show it. -/
def inspectTable (table : Attributes) : String := Text.braced (inspectEntries table.entries)

end Json

end Dispatch
