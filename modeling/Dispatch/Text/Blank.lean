import Dispatch.Text.Ranges

namespace Dispatch.Text

/-- The code points that carry the property White_Space, as inclusive ranges. -/
def blankRanges : List (Nat × Nat) :=
  [(0x09, 0x0D), (0x20, 0x20), (0x85, 0x85), (0xA0, 0xA0), (0x1680, 0x1680), (0x2000, 0x200A),
   (0x2028, 0x2029), (0x202F, 0x202F), (0x205F, 0x205F), (0x3000, 0x3000)]

/-- Whether a character is white space. -/
def isBlank (c : Char) : Bool := within blankRanges c

example : areSpaced blankRanges := by decide +kernel

/-- Blank characters at the front are dropped. -/
def trimFront (cs : List Char) : List Char := cs.dropWhile isBlank

/-- Blank characters at both ends are dropped. -/
def trimChars (cs : List Char) : List Char := (trimFront (trimFront cs).reverse).reverse

/-- Blank characters around a text are dropped. -/
def trim (s : String) : String := String.ofList (trimChars s.toList)

/-- Nothing but blank characters, or nothing at all. -/
def isAllBlank (s : String) : Bool := s.toList.all isBlank

end Dispatch.Text
