namespace Dispatch

/-- The time in nanoseconds. -/
structure Timestamp where
  nanos : Nat
deriving DecidableEq, Inhabited

namespace Timestamp

/-- Digits with zeros in front up to a width. -/
def padded (width n : Nat) : List Char :=
  let digits := (Nat.repr n).toList
  List.replicate (width - digits.length) '0' ++ digits

/-- Year, month and day of a day counted from the start of 1970; years start in March within an era. -/
def date (days : Nat) : Nat × Nat × Nat :=
  let shifted := days + 719468
  let era := shifted / 146097
  let inEra := shifted % 146097
  let yearOfEra := (inEra - inEra / 1460 + inEra / 36524 - inEra / 146096) / 365
  let inYear := inEra - (365 * yearOfEra + yearOfEra / 4 - yearOfEra / 100)
  let fromMarch := (5 * inYear + 2) / 153
  let day := inYear - (153 * fromMarch + 2) / 5 + 1
  let month := if fromMarch < 10 then fromMarch + 3 else fromMarch - 9
  let year := yearOfEra + era * 400
  (if month ≤ 2 then year + 1 else year, month, day)

/-- The fraction of a second in three, six or nine digits, or nothing for a whole second. -/
def fraction (nanos : Nat) : List Char :=
  if nanos = 0 then []
  else if nanos % 1000000 = 0 then '.' :: padded 3 (nanos / 1000000)
  else if nanos % 1000 = 0 then '.' :: padded 6 (nanos / 1000)
  else '.' :: padded 9 nanos

/-- Date, time and the offset of universal time. -/
def text (t : Timestamp) : String :=
  let seconds := t.nanos / 1000000000
  let (year, month, day) := date (seconds / 86400)
  let inDay := seconds % 86400
  String.ofList (padded 4 year ++ '-' :: padded 2 month ++ '-' :: padded 2 day ++ 'T' ::
    padded 2 (inDay / 3600) ++ ':' :: padded 2 (inDay % 3600 / 60) ++ ':' :: padded 2 (inDay % 60) ++
    fraction (t.nanos % 1000000000) ++ ['+', '0', '0', ':', '0', '0'])

/-- The number that digits stand for, if they are nothing else. -/
def digits? (cs : List Char) : Option Nat :=
  if cs.all Char.isDigit then some (cs.foldl (fun sum c => sum * 10 + (c.toNat - '0'.toNat)) 0) else none

/-- How many days a month has, with leap days. -/
def daysIn (year month : Nat) : Nat :=
  if month = 2 then if year % 4 = 0 ∧ (year % 100 ≠ 0 ∨ year % 400 = 0) then 29 else 28
  else if month = 4 ∨ month = 6 ∨ month = 9 ∨ month = 11 then 30
  else 31

/-- Whether a text as a whole is a point in universal time: a date, a time and the offset `+00:00`. -/
def isText (s : String) : Bool :=
  match s.toList with
  | a :: b :: c :: d :: '-' :: e :: f :: '-' :: g :: h :: sep :: i :: j :: ':' :: k :: l :: ':' :: m :: n ::
      rest =>
    match digits? [a, b, c, d], digits? [e, f], digits? [g, h], digits? [i, j], digits? [k, l],
      digits? [m, n] with
    | some year, some month, some day, some hour, some minute, some second =>
      let tail :=
        match rest with
        | '.' :: more => if more.head?.any Char.isDigit then more.dropWhile Char.isDigit else rest
        | rest => rest
      (sep = 'T' || sep = 't' || sep = ' ') && 1 ≤ month && month ≤ 12 && 1 ≤ day
        && day ≤ daysIn year month && hour < 24 && minute < 60 && second ≤ 60
        && tail = ['+', '0', '0', ':', '0', '0']
    | _, _, _, _, _, _ => false
  | _ => false

example : (Timestamp.mk 1709251199500000000).text = "2024-02-29T23:59:59.500+00:00" := by decide +kernel
example : isText "2024-02-29T23:59:59.500+00:00" = true := by decide +kernel

end Timestamp

end Dispatch
