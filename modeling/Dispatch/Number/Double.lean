namespace Dispatch

/-- Finite doubles of 64 bits: the exponent of infinity is left out, so every value is a number. -/
structure Double where
  negative : Bool
  bits : Nat
  finite : bits < 2047 * Nat.pow 2 52
deriving DecidableEq

namespace Double

/-- The exponent of one is the bias. -/
def one : Double := ⟨false, 1023 * Nat.pow 2 52, by decide⟩

/-- Zero has a sign. -/
def zero (negative : Bool) : Double := ⟨negative, 0, by decide⟩

instance : Inhabited Double := ⟨zero false⟩

/-- The whole number that the magnitude is a multiple of a power of two by. -/
def significand (d : Double) : Nat :=
  if d.bits < Nat.pow 2 52 then d.bits else Nat.pow 2 52 + d.bits % Nat.pow 2 52

/-- The magnitude is the significand times two to this power. -/
def exponent (d : Double) : Int := (max 1 (d.bits / Nat.pow 2 52) : Nat) - 1075

/-- A ratio of whole numbers with a power of two moved to the side where it is whole. -/
def scale (num den : Nat) (power : Int) : Nat × Nat :=
  if 0 ≤ power then (num * Nat.pow 2 power.toNat, den) else (num, den * Nat.pow 2 (-power).toNat)

/-- The quotient to the nearest whole number, a tie to the even one. -/
def divideToEven (num den : Nat) : Nat :=
  let quotient := num / den
  let rest := num % den
  if den < 2 * rest ∨ (2 * rest = den ∧ quotient % 2 = 1) then quotient + 1 else quotient

/-- Bits of the double nearest to a ratio, which may lie past the last finite one. -/
def nearestBits (num den : Nat) : Nat :=
  if num = 0 then 0
  else
    let low : Int := max (-1074) ((num.log2 : Int) - den.log2 - 53)
    let first := scale num den (-low)
    let power := if first.1 / first.2 < Nat.pow 2 53 then low else low + 1
    let scaled := scale num den (-power)
    (power + 1074).toNat * Nat.pow 2 52 + divideToEven scaled.1 scaled.2

/-- The nearest double of a ratio, unless the ratio rounds past the last one. -/
def ofRatio? (negative : Bool) (num den : Nat) : Option Double :=
  if finite : nearestBits num den < 2047 * Nat.pow 2 52 then some ⟨negative, nearestBits num den, finite⟩ else none

/-- The magnitude as a ratio of whole numbers. -/
def ratio (d : Double) : Nat × Nat := scale d.significand 1 d.exponent

/-- Whether the value is one of the two zeros. -/
def isZero (d : Double) : Bool := d.bits = 0

/-- The nearest double of the product, if it is finite. -/
def mul? (a b : Double) : Option Double :=
  ofRatio? (a.negative != b.negative) (a.ratio.1 * b.ratio.1) (a.ratio.2 * b.ratio.2)

/-- The nearest double of the quotient, if there is one and it is finite. -/
def div? (a b : Double) : Option Double :=
  if b.isZero then none
  else ofRatio? (a.negative != b.negative) (a.ratio.1 * b.ratio.2) (a.ratio.2 * b.ratio.1)

/-- The nearest double of an integer; the integers of 64 bits all have one. -/
def ofInt? (n : Int) : Option Double := ofRatio? (n < 0) n.natAbs 1

/-- Doubles compare by value, so the two zeros are the same. -/
def same (a b : Double) : Bool := a.bits = b.bits && (a.negative = b.negative || a.isZero)

/-- The largest power of ten that one step of scaling uses. -/
def largestStep : Nat := 308

/-- Repeated division by the largest power of ten; it ends early once nothing is left. -/
def scaleDown (d : Double) (steps : Nat) (rest : Nat) : Option Double :=
  match steps with
  | 0 => do d.div? (← ofRatio? false (Nat.pow 10 rest) 1)
  | steps + 1 =>
    if d.isZero then some d
    else do scaleDown (← d.div? (← ofRatio? false (Nat.pow 10 largestStep) 1)) steps rest

/-- The double of a decimal literal, whose digits are rounded first and then scaled by powers of ten. -/
def ofDecimal? (negative : Bool) (digits : Nat) (exponent : Int) : Option Double := do
  let start ← ofRatio? false digits 1
  let size := exponent.natAbs
  let scaled ←
    if 0 ≤ exponent then
      if size ≤ largestStep then start.mul? (← ofRatio? false (Nat.pow 10 size) 1)
      else if start.isZero then some start
      else none
    else
      let steps := (size - 1) / largestStep
      start.scaleDown steps (size - steps * largestStep)
  pure { scaled with negative }

example : (ofDecimal? false 15 (-1)).map (·.ratio) = some (3 * Nat.pow 2 51, Nat.pow 2 52) := by decide +kernel
example : (ofDecimal? false 5 (-324)).map (·.bits) = some 1 := by decide +kernel
example : ofDecimal? false 1 309 = none := by decide +kernel

end Double

end Dispatch
