/-!
# Punycode

The form of a label with characters beyond ASCII. Its ASCII characters come first, up to the last
hyphen; the letters and digits behind it are numbers of variable length that say which characters
are to be inserted, and where.
-/

namespace SessionSync.Url.Punycode

/-- The value of a digit: letters from 0, then digits from 26. -/
def digitValue? (c : Char) : Option Nat :=
  if c.isLower then some (c.toNat - 'a'.toNat)
  else if c.isUpper then some (c.toNat - 'A'.toNat)
  else if c.isDigit then some (c.toNat - '0'.toNat + 26)
  else none

/-- Divides until what is left is small, and counts 36 for every time. -/
def shrink (delta k : Nat) : Nat × Nat :=
  if 455 < delta then shrink (delta / 35) (k + 36) else (delta, k)
termination_by delta

/-- The threshold for the next number, after one of the given size has been read. -/
def adapt (delta count : Nat) (isFirst : Bool) : Nat :=
  let delta := if isFirst then delta / 700 else delta / 2
  let (delta, k) := shrink (delta + delta / count) 0
  k + 36 * delta / (delta + 38)

/-- How far the reading of the numbers is. -/
structure State where
  /-- The characters so far. -/
  characters : List Nat
  /-- The character that was inserted last. -/
  last : Nat := 128
  /-- The threshold. -/
  bias : Nat := 72
  /-- The place behind the last insertion, where the number began. -/
  start : Nat := 0
  /-- The number so far. -/
  value : Nat := 0
  /-- What the next digit counts. -/
  weight : Nat := 1
  /-- The place of the next digit in its number. -/
  place : Nat := 36
  /-- Whether a number has been begun. -/
  inNumber : Bool := false

/-- Reads one digit. -/
def State.read (s : State) (digit : Nat) : State :=
  let value := s.value + digit * s.weight
  let limit := min 26 (max 1 (s.place - s.bias))
  if digit < limit then
    let count := s.characters.length + 1
    let character := s.last + value / count
    let place := value % count
    { characters := s.characters.take place ++ character :: s.characters.drop place
      last := character
      bias := adapt (value - s.start) count (s.start = 0)
      start := place + 1
      value := place + 1 }
  else { s with value, weight := s.weight * (36 - limit), place := s.place + 36, inNumber := true }

/-- The text that a label writes. -/
def decode? (label : List Char) : Option (List Char) :=
  let back := label.reverse
  let digits := (back.takeWhile (· ≠ '-')).reverse
  let front := (back.dropWhile (· ≠ '-')).drop 1 |>.reverse
  match digits.mapM digitValue? with
  | none => none
  | some values =>
    let s := values.foldl State.read { characters := front.map Char.toNat }
    if s.inNumber then none
    else s.characters.mapM fun n => if h : n.isValidChar then some (Char.ofNatAux n h) else none

end SessionSync.Url.Punycode
