/-!
# Blanks, words and line ends

Which characters separate words, how a text falls into words, and how the characters that end a line are
taken off.
-/

namespace Planetarium.Text

/-- The first and last code points of the ranges of the `White_Space` property. -/
def whiteSpace : List (Nat × Nat) :=
  [(0x09, 0x0d), (0x20, 0x20), (0x85, 0x85), (0xa0, 0xa0), (0x1680, 0x1680), (0x2000, 0x200a),
   (0x2028, 0x2029), (0x202f, 0x202f), (0x205f, 0x205f), (0x3000, 0x3000)]

/-- Whether a code point lies in one of the ranges. -/
def inRanges (ranges : List (Nat × Nat)) (n : Nat) : Bool :=
  ranges.any fun r => r.1 ≤ n && n ≤ r.2

/-- A character that separates words. -/
def isBlank (c : Char) : Bool := inRanges whiteSpace c.toNat

/-- The words of a text: its longest runs without a blank, in order. -/
def words (cs : List Char) : List (List Char) := (cs.splitOnP isBlank).filter (· ≠ [])

/-- A character that may stand after the end of a message: NUL, carriage return or line feed. -/
def isTerminator (c : Char) : Bool := c = '\x00' || c = '\r' || c = '\n'

/-- The text without its longest ending made of characters that satisfy `p`. -/
def trimEnd (p : Char → Bool) (cs : List Char) : List Char := (cs.reverse.dropWhile p).reverse

/-- The text without the terminators at its end. -/
def trimTerminators (cs : List Char) : List Char := trimEnd isTerminator cs

end Planetarium.Text
