import Dispatch.Text.Visible

namespace Dispatch.Text

/-- Digits of a number in lower-case hexadecimal. -/
def hexDigits (n : Nat) : List Char := Nat.toDigits 16 n

/-- A character within quotes. -/
def quoteChar (c : Char) : List Char :=
  if c = '"' then ['\\', '"']
  else if c = '\\' then ['\\', '\\']
  else if c = '\n' then ['\\', 'n']
  else if c = '\r' then ['\\', 'r']
  else if c = '\t' then ['\\', 't']
  else if c.toNat = 0 then ['\\', '0']
  else if isVisible c then [c]
  else '\\' :: 'u' :: '\x7b' :: hexDigits c.toNat ++ ['\x7d']

/-- The text as a reader of logs sees it: on one line, between double quotes. -/
def quoted (s : String) : String :=
  String.ofList ('"' :: s.toList.flatMap quoteChar ++ ['"'])

/-- Items between square brackets, a comma and a space between neighbours. -/
def bracketed (items : List String) : String := "[" ++ ", ".intercalate items ++ "]"

/-- Items between curly braces, a comma and a space between neighbours. -/
def braced (items : List String) : String := "\x7b" ++ ", ".intercalate items ++ "\x7d"

/-- A name and its parts in braces: `Point { x: 1, y: 2 }`. -/
def labelled (name : String) (parts : List (String × String)) : String :=
  let shown := parts.map fun part => part.1 ++ ": " ++ part.2
  name ++ " \x7b " ++ ", ".intercalate shown ++ " \x7d"

/-- A truth value as a word. -/
def flag (value : Bool) : String := if value then "true" else "false"

/-- What may be missing: `Some(1)` or `None`. -/
def optional : Option String → String
  | some shown => "Some(" ++ shown ++ ")"
  | none => "None"

example : quoted "a\"b\\c\n" = "\"a\\\"b\\\\c\\n\"" := by decide +kernel

end Dispatch.Text
