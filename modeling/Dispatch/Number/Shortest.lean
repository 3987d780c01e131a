import Dispatch.Number.Double

namespace Dispatch

namespace Double

/-- Compares a multiple of a power of ten with a multiple of a power of two. -/
def compareGrid (count : Nat) (power : Int) (units : Nat) (exponent : Int) : Ordering :=
  let left := count * Nat.pow 10 power.toNat * Nat.pow 2 (-exponent).toNat
  let right := units * Nat.pow 2 exponent.toNat * Nat.pow 10 (-power).toNat
  compare left right

/-- Four times the significand, and the ends of the interval that rounds to the double, in quarters. -/
structure Interval where
  low : Nat
  value : Nat
  high : Nat
  exponent : Int
  closed : Bool

/-- Half a step each way; below the start of a binade the step is half as long. -/
def interval (d : Double) : Interval :=
  let m := d.significand
  let narrow := d.bits % Nat.pow 2 52 = 0 ∧ Nat.pow 2 53 ≤ d.bits
  { low := if narrow then 4 * m - 1 else 4 * m - 2
    value := 4 * m
    high := 4 * m + 2
    exponent := d.exponent - 2
    closed := m % 2 = 0 }

/-- Whether a grid point rounds to the double; the ends count if the significand is even. -/
def Interval.holds (i : Interval) (count : Nat) (power : Int) : Bool :=
  match compareGrid count power i.low i.exponent, compareGrid count power i.high i.exponent with
  | .gt, .lt => true
  | .eq, .lt => i.closed
  | .gt, .eq => i.closed
  | _, _ => false

/-- The grid point at or below the value. -/
def Interval.floor (i : Interval) (power : Int) : Nat :=
  (i.value * Nat.pow 2 i.exponent.toNat * Nat.pow 10 (-power).toNat) /
    (Nat.pow 10 power.toNat * Nat.pow 2 (-i.exponent).toNat)

/-- The neighbour on the grid that rounds to the double; of two the nearer, of equally near ones the even. -/
def Interval.pick (i : Interval) (power : Int) : Option Nat :=
  let down := i.floor power
  let up := down + 1
  match i.holds down power, i.holds up power with
  | true, false => some down
  | false, true => some up
  | false, false => none
  | true, true =>
    match compareGrid (down + up) power (2 * i.value) i.exponent with
    | .gt => some down
    | .lt => some up
    | .eq => some (if down % 2 = 0 then down else up)

/-- Grids from coarse to fine. -/
def Interval.search (i : Interval) (power : Int) : Nat → Nat × Int
  | 0 => (i.floor power, power)
  | fuel + 1 =>
    match i.pick power with
    | some count => (count, power)
    | none => search i (power - 1) fuel

/-- A power of ten above the magnitude. -/
def ceilingPower (d : Double) : Int :=
  ((d.significand.log2 : Int) + d.exponent + 1) * 30103 / 100000 + 1

/-- The digits, without zeros at the end, and the power of ten of the last one. -/
def shortest (d : Double) : List Char × Int :=
  if d.isZero then (['0'], 0)
  else
    let found := d.interval.search d.ceilingPower 20
    let digits := (Nat.repr found.1).toList
    let kept := (digits.reverse.dropWhile (· = '0')).reverse
    (kept, found.2 + (digits.length - kept.length : Nat))

/-- How a double is laid out: where positional notation begins and ends, by the power of the first digit. -/
structure Layout where
  leastPositional : Int
  mostPositional : Int
  plus : String

/-- Digits with a point among them, padded by zeros. -/
def positional (digits : List Char) (lead : Int) : String :=
  if lead < 0 then
    String.ofList ('0' :: '.' :: List.replicate (-lead - 1).toNat '0' ++ digits)
  else
    let whole := lead.toNat + 1
    let padded := digits ++ List.replicate (whole - digits.length) '0'
    let fraction := padded.drop whole
    String.ofList (padded.take whole ++ '.' :: if fraction.isEmpty then ['0'] else fraction)

/-- One digit before the point, and the power of ten after the letter. -/
def scientific (layout : Layout) (digits : List Char) (lead : Int) : String :=
  let rest := digits.drop 1
  let mantissa := digits.take 1 ++ if rest.isEmpty then [] else '.' :: rest
  String.ofList mantissa ++ "e" ++ (if lead < 0 then "-" else layout.plus) ++ Nat.repr lead.natAbs

/-- The shortest text of a double under a layout; a fraction or an exponent is always there. -/
def text (layout : Layout) (d : Double) : String :=
  let (digits, last) := d.shortest
  let lead := last + digits.length - 1
  let unsigned :=
    if layout.leastPositional ≤ lead ∧ lead ≤ layout.mostPositional then positional digits lead
    else scientific layout digits lead
  if d.negative then "-" ++ unsigned else unsigned

end Double

end Dispatch
