import Dispatch.Text.Blank
import Dispatch.Text.Quoted

namespace Dispatch

/-- A span of time in nanoseconds, which is never negative. -/
structure Duration where
  nanos : Nat
deriving DecidableEq, Inhabited

namespace Duration

/-- Nanoseconds in a second. -/
def second : Nat := 1000000000

/-- A span of whole seconds. -/
def ofSeconds (n : Nat) : Duration := ⟨n * second⟩

/-- A span of whole milliseconds. -/
def ofMillis (n : Nat) : Duration := ⟨n * 1000000⟩

/-- The whole seconds of a span. -/
def seconds (d : Duration) : Nat := d.nanos / second

/-- The nanoseconds past the last whole second. -/
def subsecond (d : Duration) : Nat := d.nanos % second

/-- Why a text is no span of time; offsets count bytes. -/
inductive ReadError where
  | invalidCharacter (offset : Nat)
  | numberExpected (offset : Nat)
  | unknownUnit (name : String) (count : Nat)
  | overflow
  /-- Fractions of a second add up to one second past the last one there is. -/
  | carried
  | empty
deriving DecidableEq

/-- A missing unit and an unknown one are told apart. -/
def ReadError.message : ReadError → String
  | .invalidCharacter offset => "invalid character at " ++ Nat.repr offset
  | .numberExpected offset => "expected number at " ++ Nat.repr offset
  | .unknownUnit name count =>
    if name.isEmpty then
      "time unit needed, for example " ++ Nat.repr count ++ "sec or " ++ Nat.repr count ++ "ms"
    else
      "unknown time unit " ++ Text.quoted name ++
        ", supported units: ns, us/µs, ms, sec, min, hours, days, weeks, months, years (and few variations)"
  | .overflow =>
    "number is too large or cannot be represented without a lack of precision " ++
      "(values below 1ns are not supported)"
  | .carried => "overflow in Duration::new"
  | .empty => "value was empty"

/-- A unit is a number of nanoseconds, or of whole seconds. -/
inductive TimeUnit where
  | nanos (count : Nat)
  | seconds (count : Nat)

/-- A month is 30.44 days and a year 365.25. -/
def unitNames : List (List String × TimeUnit) :=
  [(["nanos", "nsec", "ns"], .nanos 1),
   (["usec", "us", "µs"], .nanos 1000),
   (["millis", "msec", "ms"], .nanos 1000000),
   (["seconds", "second", "secs", "sec", "s"], .seconds 1),
   (["minutes", "minute", "min", "mins", "m"], .seconds 60),
   (["hours", "hour", "hrs", "hr", "h"], .seconds 3600),
   (["days", "day", "d"], .seconds 86400),
   (["weeks", "week", "wk", "wks", "w"], .seconds 604800),
   (["months", "month", "M"], .seconds 2630016),
   (["years", "year", "yr", "yrs", "y"], .seconds 31557600)]

/-- The unit of a name, if there is one. -/
def unit? (name : String) : Option TimeUnit :=
  (unitNames.find? fun entry => name ∈ entry.1).map (·.2)

/-- Counts fit into 64 bits. -/
def limit : Nat := Nat.pow 2 64

/-- Names of units are made of Latin letters and the sign for micro. -/
def isUnitChar (c : Char) : Bool := ('a' ≤ c && c ≤ 'z') || ('A' ≤ c && c ≤ 'Z') || c = 'µ'

/-- The number that a digit stands for. -/
def digitValue (c : Char) : Nat := c.toNat - '0'.toNat

/-- A number that grows by one digit, as long as it fits into 64 bits. -/
def extend (n : Nat) (c : Char) : Except ReadError Nat :=
  let next := n * 10 + digitValue c
  if next < limit then .ok next else .error .overflow

/-- A fraction as it was written: its digits over a power of ten. -/
structure Fraction where
  numerator : Nat
  denominator : Nat

/-- The characters still to read, and the offset of the first of them. -/
structure Cursor where
  offset : Nat
  rest : List Char

/-- The next digit after blanks, or the offset at which a digit was looked for and not found. -/
def firstDigit (start : Nat) : Nat → List Char → Except ReadError (Option (Nat × Cursor))
  | _, [] => .ok none
  | offset, c :: cs =>
    if c.isDigit then .ok (some (digitValue c, ⟨offset + c.utf8Size, cs⟩))
    else if Text.isBlank c then firstDigit start (offset + c.utf8Size) cs
    else .error (.numberExpected start)

/-- The digits after a point. The mark is where the next complaint points to, and where a unit starts. -/
def readFraction (mark : Nat) (fraction : Fraction) :
    Nat → List Char → Except ReadError (Fraction × Nat × List Char)
  | _, [] =>
    if fraction.denominator = 1 then .error (.invalidCharacter mark) else .ok (fraction, mark, [])
  | offset, c :: cs =>
    if c.isDigit then do
      let denominator := fraction.denominator * 10
      if limit ≤ denominator then throw .overflow
      readFraction (offset + c.utf8Size) ⟨← extend fraction.numerator c, denominator⟩
        (offset + c.utf8Size) cs
    else if Text.isBlank c then readFraction (offset + c.utf8Size) fraction (offset + c.utf8Size) cs
    else if isUnitChar c then
      if fraction.denominator = 1 then .error (.invalidCharacter mark) else .ok (fraction, mark, c :: cs)
    else .error (.invalidCharacter mark)

/-- The rest of a number, up to where its unit starts. -/
def readCount (count : Nat) : Nat → List Char →
    Except ReadError (Nat × Option Fraction × Nat × List Char)
  | offset, [] => .ok (count, none, offset, [])
  | offset, c :: cs =>
    if c.isDigit then do readCount (← extend count c) (offset + c.utf8Size) cs
    else if Text.isBlank c then readCount count (offset + c.utf8Size) cs
    else if isUnitChar c then .ok (count, none, offset, c :: cs)
    else if c = '.' then do
      let (fraction, mark, rest) ← readFraction offset ⟨0, 1⟩ (offset + 1) cs
      return (count, some fraction, mark, rest)
    else .error (.invalidCharacter offset)

/-- How a unit's name ends: by a blank or the end of the text, or by the first digit of the next number. -/
inductive UnitEnd where
  | closed (cursor : Cursor)
  | digit (value : Nat) (cursor : Cursor)

/-- The name of a unit. -/
def readUnitName : Nat → List Char → Except ReadError (List Char × UnitEnd)
  | offset, [] => .ok ([], .closed ⟨offset, []⟩)
  | offset, c :: cs =>
    if c.isDigit then .ok ([], .digit (digitValue c) ⟨offset + c.utf8Size, cs⟩)
    else if Text.isBlank c then .ok ([], .closed ⟨offset + c.utf8Size, cs⟩)
    else if isUnitChar c then do
      let (name, ending) ← readUnitName (offset + c.utf8Size) cs
      return (c :: name, ending)
    else .error (.invalidCharacter offset)

/-- A product that fits into 64 bits. -/
def product (a b : Nat) : Except ReadError Nat :=
  if a * b < limit then .ok (a * b) else .error .overflow

/-- A quotient without a rest; nothing is rounded. -/
def quotient (a b : Nat) : Except ReadError Nat := if a % b = 0 then .ok (a / b) else .error .overflow

/-- Adds a span; its whole seconds have to fit into 64 bits. -/
def add (total : Duration) (secs nanos : Nat) : Except ReadError Duration :=
  let sum := total.nanos + secs * second + nanos
  let below := total.subsecond + nanos
  if limit ≤ below then .error .overflow
  else if sum / second < limit then .ok ⟨sum⟩
  else if below = second ∧ sum / second = limit then .error .carried
  else .error .overflow

/-- A fraction of a minute or less is a count of nanoseconds, a fraction of a longer unit one of seconds. -/
def fractionOf (fraction : Fraction) : TimeUnit → Except ReadError (Nat × Nat)
  | .nanos count =>
    if count = 1 then .error .overflow
    else do return (0, ← quotient (← product fraction.numerator count) fraction.denominator)
  | .seconds count =>
    if count ≤ 60 then do
      return (0, ← quotient (← product fraction.numerator (count * second)) fraction.denominator)
    else do return (← quotient (← product fraction.numerator count) fraction.denominator, 0)

/-- Adds a number of units to a span. -/
def addUnits (total : Duration) (count : Nat) (fraction : Option Fraction) (name : List Char) :
    Except ReadError Duration :=
  match unit? (String.ofList name) with
  | none => .error (.unknownUnit (String.ofList name) count)
  | some unit => do
    let total ←
      match unit with
      | .nanos size => do total.add 0 (← product count size)
      | .seconds size => do total.add (← product count size) 0
    match fraction with
    | none => return total
    | some fraction =>
      let (secs, nanos) ← fractionOf fraction unit
      total.add secs nanos

/-- Numbers with units, one after the other. The fuel is never short of the characters left. -/
def readUnits (fuel : Nat) (total : Duration) (count offset : Nat) (cs : List Char) :
    Except ReadError Duration :=
  match fuel with
  | 0 => .error .empty
  | fuel + 1 => do
    let (count, fraction, start, cs) ← readCount count offset cs
    let (name, ending) ← readUnitName start cs
    let total ← total.addUnits count fraction name
    match ending with
    | .digit value cursor => readUnits fuel total value cursor.offset cursor.rest
    | .closed cursor =>
      match ← firstDigit cursor.offset cursor.offset cursor.rest with
      | none => return total
      | some (value, cursor) => readUnits fuel total value cursor.offset cursor.rest

/-- Reads a span of time such as `1h 30min` or `1.5s`. -/
def parse (s : String) : Except ReadError Duration := do
  match ← firstDigit 0 0 s.toList with
  | none => throw .empty
  | some (value, cursor) => readUnits (s.toList.length + 1) ⟨0⟩ value cursor.offset cursor.rest

/-- A part with its unit, left out if it is zero. -/
def part (count : Nat) (unit : String) : List String :=
  if count = 0 then [] else [Nat.repr count ++ unit]

/-- From two on the unit takes its plural. -/
def pluralPart (count : Nat) (unit : String) : List String :=
  part count (if 1 < count then unit ++ "s" else unit)

/-- The parts of a span from years down to nanoseconds, with a space between neighbours. -/
def spelled (d : Duration) : String :=
  if d.nanos = 0 then "0s"
  else
    let inYear := d.seconds % 31557600
    let inMonth := inYear % 2630016
    let inDay := inMonth % 86400
    " ".intercalate
      (pluralPart (d.seconds / 31557600) "year" ++ pluralPart (inYear / 2630016) "month" ++
        pluralPart (inMonth / 86400) "day" ++ part (inDay / 3600) "h" ++ part (inDay % 3600 / 60) "m" ++
        part (inDay % 60) "s" ++ part (d.subsecond / 1000000) "ms" ++
        part (d.subsecond / 1000 % 1000) "us" ++ part (d.subsecond % 1000) "ns")

/-- A number with the given count of places, without zeros at the end. -/
def withPlaces (whole fraction places : Nat) : String :=
  let digits := (Nat.repr fraction).toList
  let padded := List.replicate (places - digits.length) '0' ++ digits
  let kept := (padded.reverse.dropWhile (· = '0')).reverse
  if kept.isEmpty then Nat.repr whole else Nat.repr whole ++ "." ++ String.ofList kept

/-- The span as one number in its largest unit up to seconds. -/
def brief (d : Duration) : String :=
  if 0 < d.seconds then withPlaces d.seconds d.subsecond 9 ++ "s"
  else if 1000000 ≤ d.nanos then withPlaces (d.nanos / 1000000) (d.nanos % 1000000) 6 ++ "ms"
  else if 1000 ≤ d.nanos then withPlaces (d.nanos / 1000) (d.nanos % 1000) 3 ++ "µs"
  else Nat.repr d.nanos ++ "ns"

example : (parse "1h 30m").toOption.map spelled = some "1h 30m" := by decide +kernel
example : (parse "1s  x" matches .error (.numberExpected 3)) = true := by decide +kernel
example : (ofMillis 90061001).brief = "90061.001s" := by decide +kernel

end Duration

end Dispatch
