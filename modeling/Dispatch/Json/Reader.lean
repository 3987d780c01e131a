import Dispatch.Json.TextError

namespace Dispatch

/-- What was read, and the characters after it. -/
abbrev Taken (α : Type) := α × List Char

namespace Json

/-- The four blanks between tokens. -/
def isSpace (c : Char) : Bool := c = ' ' || c = '\n' || c = '\t' || c = '\r'

/-- The text from its first token on. -/
def skipSpace (cs : List Char) : List Char := cs.dropWhile isSpace

/-- The rest of a word whose first character was recognised. -/
def readWord : List Char → List Char → Reading (List Char)
  | [], cs => .ok cs
  | _ :: _, [] => endsEarly .value
  | w :: word, c :: cs =>
    if c = w then readWord word cs else failAt (.malformed .expectedWord) (c :: cs)

/-- The number that a hexadecimal digit stands for. -/
def hexValue (c : Char) : Option Nat :=
  if '0' ≤ c ∧ c ≤ '9' then some (c.toNat - '0'.toNat)
  else if 'a' ≤ c ∧ c ≤ 'f' then some (c.toNat - 'a'.toNat + 10)
  else if 'A' ≤ c ∧ c ≤ 'F' then some (c.toNat - 'A'.toNat + 10)
  else none

/-- The number of four hexadecimal digits. -/
def hexNumber (a b c d : Char) : Option Nat := do
  return ((← hexValue a) * 16 + (← hexValue b)) * 256 + ((← hexValue c) * 16 + (← hexValue d))

/-- Escapes of one letter. -/
def shortEscape (c : Char) : Option Char :=
  if c = '"' ∨ c = '\\' ∨ c = '/' then some c
  else if c = 'b' then some (Char.ofNat 0x08)
  else if c = 'f' then some (Char.ofNat 0x0C)
  else if c = 'n' then some '\n'
  else if c = 'r' then some '\r'
  else if c = 't' then some '\t'
  else none

/-- Fewer than four bytes after an escape of four digits mean that the text has ended. -/
def badCode {α : Type} (cs : List Char) : Reading α :=
  if byteCount cs < 4 then endsEarly .string else failBehind 4 (.malformed .invalidEscape) cs

/-- The first half of a surrogate pair. -/
def isLeading (n : Nat) : Bool := 0xD800 ≤ n && n ≤ 0xDBFF

/-- The second half of a surrogate pair. -/
def isTrailing (n : Nat) : Bool := 0xDC00 ≤ n && n ≤ 0xDFFF

/-- What is wrong with the characters after a leading surrogate. -/
def badPair {α : Type} : List Char → Reading α
  | [] => endsEarly .string
  | '\\' :: [] => endsEarly .string
  | '\\' :: 'u' :: rest => badCode rest
  | '\\' :: rest => failAt (.malformed .brokenPair) rest
  | rest => failAt (.malformed .brokenPair) rest

/-- The characters of a string up to its closing quote; surrogates come in pairs. -/
def readChars : List Char → Reading (Taken (List Char))
  | [] => endsEarly .string
  | '"' :: rest => .ok ([], rest)
  | '\\' :: [] => endsEarly .string
  | '\\' :: 'u' :: a :: b :: c :: d :: rest =>
    match hexNumber a b c d with
    | none => badCode (a :: b :: c :: d :: rest)
    | some n =>
      if isTrailing n then failBefore (.malformed .loneSurrogate) rest
      else if isLeading n then
        match rest with
        | '\\' :: 'u' :: a' :: b' :: c' :: d' :: rest' =>
          match hexNumber a' b' c' d' with
          | none => badPair rest
          | some m =>
            if isTrailing m then do
              let (cs, after) ← readChars rest'
              .ok (Char.ofNat ((n - 0xD800) * 1024 + (m - 0xDC00) + 0x10000) :: cs, after)
            else failBefore (.malformed .loneSurrogate) rest'
        | _ => badPair rest
      else do
        let (cs, after) ← readChars rest
        .ok (Char.ofNat n :: cs, after)
  | '\\' :: 'u' :: rest => badCode rest
  | '\\' :: e :: rest =>
    match shortEscape e with
    | none => failAt (.malformed .invalidEscape) (e :: rest)
    | some c => do
      let (cs, after) ← readChars rest
      .ok (c :: cs, after)
  | c :: rest =>
    if c.toNat < 0x20 then failAt (.malformed .bareControl) (c :: rest)
    else do
      let (cs, after) ← readChars rest
      .ok (c :: cs, after)

/-- A string that is not looked at: escapes must be formed well, surrogates need no partner. -/
def skimChars : List Char → Reading (List Char)
  | [] => endsEarly .string
  | '"' :: rest => .ok rest
  | '\\' :: [] => endsEarly .string
  | '\\' :: 'u' :: a :: b :: c :: d :: rest =>
    match hexNumber a b c d with
    | none => badCode (a :: b :: c :: d :: rest)
    | some _ => skimChars rest
  | '\\' :: 'u' :: rest => badCode rest
  | '\\' :: e :: rest =>
    if (shortEscape e).isSome then skimChars rest
    else failAt (.malformed .invalidEscape) (e :: rest)
  | c :: rest =>
    if c.toNat < 0x20 then failBefore (.malformed .bareControl) (c :: rest) else skimChars rest

/-- The string after an opening quote. -/
def readString (cs : List Char) : Reading (Taken String) := do
  let (chars, rest) ← readChars cs
  return (String.ofList chars, rest)

/-- The number that a decimal digit stands for. -/
def digitValue (c : Char) : Nat := c.toNat - '0'.toNat

/-- Digits are taken in as long as the number fits into 64 bits; the count says how many were. -/
def absorb (limit : Nat) : Nat → List Char → Nat × Nat
  | sum, [] => (sum, 0)
  | sum, c :: cs =>
    let next := sum * 10 + digitValue c
    if limit ≤ next then (sum, 0)
    else
      let (total, count) := absorb limit next cs
      (total, count + 1)

/-- A number too large for a double is malformed. -/
def ofDigits? (negative : Bool) (digits : Nat) (exponent : Int) (rest : List Char) : Reading (Taken Json) :=
  match Double.ofDecimal? negative digits exponent with
  | none => failBefore (.malformed .numberOutOfRange) rest
  | some d => .ok (.double d, rest)

/-- The exponent after its letter. One past 32 bits leaves zero, or nothing at all. -/
def readExponent (negative : Bool) (digits : Nat) (start : Int) (cs : List Char) : Reading (Taken Json) :=
  let (down, cs) :=
    match cs with
    | '+' :: rest => (false, rest)
    | '-' :: rest => (true, rest)
    | cs => (false, cs)
  match cs with
  | [] => endsEarly .value
  | c :: _ =>
    if c.isDigit then
      let written := cs.takeWhile Char.isDigit
      let rest := cs.dropWhile Char.isDigit
      let (size, count) := absorb (Nat.pow 2 31) 0 written
      if count = written.length then
        ofDigits? negative digits (if down then start - size else start + size) rest
      else if digits ≠ 0 ∧ !down then failBehind (count + 1) (.malformed .numberOutOfRange) cs
      else .ok (.double (Double.zero negative), rest)
    else failAt (.malformed .invalidNumber) cs

/-- The digits after the point. Those that no longer fit are dropped. -/
def readFraction (negative : Bool) (whole : Nat) (start : Int) (cs : List Char) : Reading (Taken Json) :=
  let written := cs.takeWhile Char.isDigit
  let rest := cs.dropWhile Char.isDigit
  if written.isEmpty then if cs.isEmpty then endsEarly .value else failAt (.malformed .invalidNumber) cs
  else
    let (digits, count) := absorb (Nat.pow 2 64) whole written
    let exponent := start - count
    match rest with
    | 'e' :: rest => readExponent negative digits exponent rest
    | 'E' :: rest => readExponent negative digits exponent rest
    | rest => ofDigits? negative digits exponent rest

/-- A whole number is an integer if it fits into 64 bits, and minus zero is a double. -/
def ofWhole (negative : Bool) (n : Nat) (rest : List Char) : Reading (Taken Json) :=
  if !negative then .ok (.int n, rest)
  else if 0 < n ∧ n ≤ Nat.pow 2 63 then .ok (.int (-n), rest)
  else ofDigits? true n 0 rest

/-- A number after its sign. -/
def readNumber (negative : Bool) (cs : List Char) : Reading (Taken Json) :=
  match cs with
  | [] => endsEarly .value
  | c :: after =>
    if !c.isDigit then failAt (.malformed .invalidNumber) cs
    else if c = '0' ∧ (after.head?.any Char.isDigit) then failAt (.malformed .invalidNumber) after
    else
      let written := cs.takeWhile Char.isDigit
      let (digits, count) := absorb (Nat.pow 2 64) 0 written
      let dropped := written.length - count
      match cs.dropWhile Char.isDigit with
      | '.' :: rest => readFraction negative digits dropped rest
      | 'e' :: rest => readExponent negative digits dropped rest
      | 'E' :: rest => readExponent negative digits dropped rest
      | rest =>
        if dropped = 0 then ofWhole negative digits rest else ofDigits? negative digits dropped rest

/-- An exponent that is not looked at. -/
def skimExponent (cs : List Char) : Reading (List Char) :=
  let cs :=
    match cs with
    | '+' :: rest => rest
    | '-' :: rest => rest
    | cs => cs
  if cs.head?.any Char.isDigit then .ok (cs.dropWhile Char.isDigit)
  else failAt (.malformed .invalidNumber) cs

/-- A number that is not looked at. -/
def skimNumber (cs : List Char) : Reading (List Char) :=
  match cs with
  | [] => failAt (.malformed .invalidNumber) []
  | c :: after =>
    if !c.isDigit then failAt (.malformed .invalidNumber) cs
    else if c = '0' ∧ (after.head?.any Char.isDigit) then failAt (.malformed .invalidNumber) after
    else
      match cs.dropWhile Char.isDigit with
      | '.' :: rest =>
        if rest.head?.any Char.isDigit then
          match rest.dropWhile Char.isDigit with
          | 'e' :: rest => skimExponent rest
          | 'E' :: rest => skimExponent rest
          | rest => .ok rest
        else failAt (.malformed .invalidNumber) rest
      | 'e' :: rest => skimExponent rest
      | 'E' :: rest => skimExponent rest
      | rest => .ok rest

/-- The tokens of a reader: values are interpreted, or only skimmed. -/
inductive Care where
  | full
  | skim

/-- The string after an opening quote. -/
def Care.string : Care → List Char → Reading (Taken String)
  | .full, cs => readString cs
  | .skim, cs => do return ("", ← skimChars cs)

/-- The number after its sign. -/
def Care.number : Care → Bool → List Char → Reading (Taken Json)
  | .full, negative, cs => readNumber negative cs
  | .skim, _, cs => do return (.null, ← skimNumber cs)

/-- Skips blanks; the text must not end here, in the middle of this part. -/
def nextChar (part : Unfinished) (cs : List Char) : Reading (Taken Char) :=
  match skipSpace cs with
  | [] => endsEarly part
  | c :: rest => .ok (c, rest)

/-- The colon after a name. -/
def readColon (cs : List Char) : Reading (List Char) := do
  let (c, rest) ← nextChar .object cs
  if c = ':' then return rest else failAt (.malformed .expectedColon) (c :: rest)

/-- The rest of a list after a comma. Only a reader that is asked for the items tells a comma too many. -/
def Care.itemAfterComma (care : Care) (cs : List Char) : Reading (List Char) := do
  let (c, rest) ← nextChar .value cs
  match care with
  | .skim => return c :: rest
  | .full => if c = ']' then failAt (.malformed .trailingComma) (c :: rest) else return c :: rest

/-- What follows the opening quote of a name. -/
def openName (c : Char) (rest : List Char) : Reading (List Char) :=
  if c = '"' then .ok rest else failAt (.malformed .unquotedName) (c :: rest)

/-- What follows the opening quote of a name after a comma. -/
def Care.nameAfterComma (care : Care) (cs : List Char) : Reading (List Char) := do
  match care with
  | .skim =>
    let (c, rest) ← nextChar .object cs
    openName c rest
  | .full =>
    let (c, rest) ← nextChar .value cs
    if c = '\x7d' then failAt (.malformed .trailingComma) (c :: rest) else openName c rest

mutual

/-- A value of at most this depth. The fuel bounds the steps and is never short of the text's length. -/
def readValue (care : Care) (fuel depth : Nat) (cs : List Char) : Reading (Taken Json) :=
  match fuel with
  | 0 => endsEarly .value
  | fuel + 1 => do
    let (c, rest) ← nextChar .value cs
    if c = 'n' then return (.null, ← readWord ['u', 'l', 'l'] rest)
    else if c = 't' then return (.bool true, ← readWord ['r', 'u', 'e'] rest)
    else if c = 'f' then return (.bool false, ← readWord ['a', 'l', 's', 'e'] rest)
    else if c = '-' then care.number true rest
    else if c.isDigit then care.number false (c :: rest)
    else if c = '"' then do
      let (s, rest) ← care.string rest
      return (.string s, rest)
    else if c = '[' then
      match depth with
      | 0 => failAt (.malformed .tooDeep) (c :: rest)
      | depth + 1 => do
        let (items, rest) ← readItems care fuel depth rest
        return (.array items, rest)
    else if c = '\x7b' then
      match depth with
      | 0 => failAt (.malformed .tooDeep) (c :: rest)
      | depth + 1 => do
        let (entries, rest) ← readEntries care fuel depth rest
        return (.ofTable (Table.ofList entries), rest)
    else failAt (.malformed .expectedValue) (c :: rest)

/-- The items of an array after its bracket. -/
def readItems (care : Care) (fuel depth : Nat) (cs : List Char) : Reading (Taken (List Json)) :=
  match fuel with
  | 0 => endsEarly .list
  | fuel + 1 => do
    let (c, rest) ← nextChar .list cs
    if c = ']' then return ([], rest)
    else do
      let (item, rest) ← readValue care fuel depth (c :: rest)
      let (items, rest) ← readMoreItems care fuel depth rest
      return (item :: items, rest)

/-- The items of an array after the first one. -/
def readMoreItems (care : Care) (fuel depth : Nat) (cs : List Char) : Reading (Taken (List Json)) :=
  match fuel with
  | 0 => endsEarly .list
  | fuel + 1 => do
    let (c, rest) ← nextChar .list cs
    if c = ']' then return ([], rest)
    else if c = ',' then do
      let (item, rest) ← readValue care fuel depth (← care.itemAfterComma rest)
      let (items, rest) ← readMoreItems care fuel depth rest
      return (item :: items, rest)
    else failAt (.malformed .expectedListEnd) (c :: rest)

/-- The entries of an object after its brace. -/
def readEntries (care : Care) (fuel depth : Nat) (cs : List Char) : Reading (Taken (List (String × Json))) :=
  match fuel with
  | 0 => endsEarly .object
  | fuel + 1 => do
    let (c, rest) ← nextChar .object cs
    if c = '\x7d' then return ([], rest)
    else do
      let (name, rest) ← care.string (← openName c rest)
      let (item, rest) ← readValue care fuel depth (← readColon rest)
      let (entries, rest) ← readMoreEntries care fuel depth rest
      return ((name, item) :: entries, rest)

/-- The entries of an object after the first one. -/
def readMoreEntries (care : Care) (fuel depth : Nat) (cs : List Char) :
    Reading (Taken (List (String × Json))) :=
  match fuel with
  | 0 => endsEarly .object
  | fuel + 1 => do
    let (c, rest) ← nextChar .object cs
    if c = '\x7d' then return ([], rest)
    else if c = ',' then do
      let (name, rest) ← care.string (← care.nameAfterComma rest)
      let (item, rest) ← readValue care fuel depth (← readColon rest)
      let (entries, rest) ← readMoreEntries care fuel depth rest
      return ((name, item) :: entries, rest)
    else failAt (.malformed .expectedObjectEnd) (c :: rest)

end

/-- Each character needs at most three steps. -/
def fuelFor (cs : List Char) : Nat := 3 * cs.length + 3

/-- Values nest at most this deep in a text. -/
def maxDepth : Nat := 127

/-- Reads one value from the front of a text. -/
def read (depth : Nat) (cs : List Char) : Reading (Taken Json) := readValue .full (fuelFor cs) depth cs

/-- Skips one value of any depth. -/
def skip (cs : List Char) : Reading (List Char) := do
  let (_, rest) ← readValue .skim (fuelFor cs) cs.length cs
  return rest

/-- Nothing but blanks may follow the value of a text. -/
def finish {α : Type} (text : List Char) (reading : Reading (Taken α)) : Except TextError α :=
  match reading with
  | .error obstacle => .error (obstacle.locate text)
  | .ok (value, rest) =>
    match skipSpace rest with
    | [] => .ok value
    | more => .error (Obstacle.locate text ⟨.malformed .trailingCharacters, byteCount more - 1⟩)

/-- The value of a whole text that nests at most this deep. -/
def parseWithin (depth : Nat) (s : String) : Except TextError Json := finish s.toList (read depth s.toList)

/-- The value of a whole text. -/
def parse (s : String) : Except TextError Json := parseWithin maxDepth s

end Json

end Dispatch
