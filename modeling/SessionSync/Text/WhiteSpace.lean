/-!
# White space

The characters with the Unicode property `White_Space`, and the two operations built on them:
`trim`, which removes them at both ends of a text, and `isBlank`, which asks whether a text holds
nothing else.
-/

namespace SessionSync.Text

/-! ## The property -/

/-- The code points with the property `White_Space`, as closed intervals in ascending order. -/
def whiteSpaceRanges : List (Nat × Nat) :=
  [(0x0009, 0x000D), (0x0020, 0x0020), (0x0085, 0x0085), (0x00A0, 0x00A0), (0x1680, 0x1680),
   (0x2000, 0x200A), (0x2028, 0x2029), (0x202F, 0x202F), (0x205F, 0x205F), (0x3000, 0x3000)]

/-- Membership of a number in a list of closed intervals. -/
def inRanges (n : Nat) (ranges : List (Nat × Nat)) : Bool :=
  ranges.any fun r => r.1 ≤ n && n ≤ r.2

/-- Whether a character has the property `White_Space`. -/
def isWhiteSpace (c : Char) : Bool :=
  inRanges c.toNat whiteSpaceRanges

/-! ## Trimming -/

/-- A text without the white space at its end. -/
def trimEnd (s : List Char) : List Char :=
  (s.reverse.dropWhile isWhiteSpace).reverse

/-- A text without the white space at either end. -/
def trim (s : List Char) : List Char :=
  trimEnd (s.dropWhile isWhiteSpace)

/-- Whether a text holds white space only. -/
def isBlank (s : List Char) : Bool :=
  s.all isWhiteSpace

/-- The string form of `trim`. -/
def trimmed (s : String) : String :=
  String.ofList (trim s.toList)

end SessionSync.Text
