import SessionSync.Json.Parser

/-!
# Plain documents

A document that is to be held as a whole has limits that one which is only read through has not:
arrays and objects nest at most 127 deep, every number is within the range of double precision, and
every string has a text. `Json.isPlain` decides this and `Json.parsePlain?` reads only such
documents.
-/

namespace SessionSync

/-! ## The range of numbers -/

namespace Numeral

/-- A natural number rounded to 53 significant bits, a tie going to the even neighbour. -/
def roundTo53Bits (n : Nat) : Nat :=
  let excess := Nat.log2 n + 1 - 53
  let unit := Nat.pow 2 excess
  let low := n / unit * unit
  let rest := n - low
  if 2 * rest > unit ∨ (2 * rest = unit ∧ n / unit % 2 = 1) then low + unit else low

/-- The least product that double precision rounds to infinity. -/
def overflowBound : Nat :=
  Nat.pow 2 1024 - Nat.pow 2 970

/-- The digits of a numeral that fit into 64 bits, as their value and the power of ten that makes
up for the digits left out. Digits before the point that no longer fit raise the power; digits after
the point lower it one by one until the first that no longer fits. -/
def leadingDigits (n : Numeral) : Nat × Int :=
  let wholePart := n.whole.foldl
    (fun (acc : Nat × Nat) c =>
      let next := digitsValue acc.1 [c]
      if acc.2 = 0 ∧ next < UInt64.size then (next, 0) else (acc.1, acc.2 + 1)) (0, 0)
  let all := n.fraction.foldl
    (fun (acc : Nat × Nat × Bool) c =>
      let next := digitsValue acc.1 [c]
      if acc.2.2 ∧ next < UInt64.size then (next, acc.2.1 + 1, true) else (acc.1, acc.2.1, false))
    (wholePart.1, 0, true)
  (all.1, (wholePart.2 : Int) - all.2.1)

/-- The power of ten that a numeral gives after its letter `e`. -/
def powerValue (n : Numeral) : Int :=
  match n.power with
  | none => 0
  | some (false, digits) => digitsValue 0 digits
  | some (true, digits) => -(digitsValue 0 digits : Int)

/-- Whether a numeral is within the range of double precision. The value is taken as the rounded
leading digits times the rounded power of ten, and powers above 308 are out of range unless the
digits are all zero. -/
def inRange (n : Numeral) : Bool :=
  let (digits, shift) := n.leadingDigits
  let power := shift + n.powerValue
  if digits = 0 ∨ power < 0 then true
  else if power > 308 then false
  else roundTo53Bits digits * roundTo53Bits (Nat.pow 10 power.toNat) < overflowBound

end Numeral

/-! ## Documents -/

namespace Json

/-- How deep arrays and objects may nest in a plain document. -/
def maxDepth : Nat := 127

mutual

/-- Whether a document is plain, with `depth` levels of nesting left. -/
def isPlainWithin (depth : Nat) : Json → Bool
  | .null => true
  | .bool _ => true
  | .number n => n.inRange
  | .string text? => text?.isSome
  | .array items => 0 < depth && itemsPlain (depth - 1) items
  | .object members => 0 < depth && membersPlain (depth - 1) members

/-- Whether all items are plain, with `depth` levels of nesting left. -/
def itemsPlain (depth : Nat) : List Json → Bool
  | [] => true
  | j :: rest => isPlainWithin depth j && itemsPlain depth rest

/-- Whether all members have a text as key and are plain, with `depth` levels of nesting left. -/
def membersPlain (depth : Nat) : List (Option String × Json) → Bool
  | [] => true
  | (key, j) :: rest => key.isSome && isPlainWithin depth j && membersPlain depth rest

end

/-- Whether a document keeps to the limits of one that is held as a whole. -/
def isPlain (j : Json) : Bool :=
  isPlainWithin maxDepth j

/-- The plain document that a text spells. -/
def parsePlain? (s : List Char) : Option Json :=
  (parse? s).filter isPlain

end Json

end SessionSync
