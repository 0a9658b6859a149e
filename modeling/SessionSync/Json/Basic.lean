/-!
# JSON documents

The tree of a JSON document as it is written: numbers keep their digits, objects keep the order and
the repetitions of their members, and a string that holds an unpaired surrogate escape is known to
be a string but has no text. Readers decide how much of that they accept; see `Json.isPlain` for
documents taken as a whole and `Json.slots?` for documents that spell a record.
-/

namespace SessionSync

/-! ## Numbers -/

/-- A number as written, in digits. -/
structure Numeral where
  /-- Whether a minus sign stands in front. -/
  negative : Bool
  /-- The digits before the point. -/
  whole : List Char
  /-- The digits after the point; empty when there is no point. -/
  fraction : List Char
  /-- The power of ten, as its sign (`true` for minus) and its digits. -/
  power : Option (Bool × List Char)
  deriving Repr, DecidableEq

namespace Numeral

/-- The number that decimal digits write, continuing from the value of those before them. -/
def digitsValue (start : Nat) (digits : List Char) : Nat :=
  digits.foldl (fun n c => n * 10 + (c.toNat - '0'.toNat)) start

/-- The numeral of a natural number. -/
def ofNat (n : Nat) : Numeral :=
  ⟨false, Nat.toDigits 10 n, [], none⟩

/-- The numeral of an integer. -/
def ofInt (i : Int) : Numeral :=
  ⟨i < 0, Nat.toDigits 10 i.natAbs, [], none⟩

/-- The integer that a numeral writes without point or power. A minus sign in front of zero does
not write an integer. -/
def toInt? (n : Numeral) : Option Int :=
  if n.fraction = [] ∧ n.power = none then
    let value := digitsValue 0 n.whole
    if n.negative then
      if value = 0 then none else some (-(value : Int))
    else some value
  else none

end Numeral

/-! ## Documents -/

/-- A JSON document. -/
inductive Json
  /-- The literal `null`. -/
  | null
  /-- The literals `true` and `false`. -/
  | bool (b : Bool)
  /-- A number. -/
  | number (n : Numeral)
  /-- A string; it has no text when an unpaired surrogate escape stands in it. -/
  | string (text? : Option String)
  /-- An array. -/
  | array (items : List Json)
  /-- An object, with its members as written. -/
  | object (members : List (Option String × Json))
  deriving Repr, Inhabited

namespace Json

/-- The document of a text. -/
def ofString (s : String) : Json :=
  .string (some s)

/-- The document of an integer. -/
def ofInt (i : Int) : Json :=
  .number (.ofInt i)

/-- The object with the given members. -/
def ofFields (fields : List (String × Json)) : Json :=
  .object (fields.map fun f => (some f.1, f.2))

/-- The truth value of a document. -/
def toBool? : Json → Option Bool
  | .bool b => some b
  | _ => none

/-- The text of a document. -/
def toText? : Json → Option String
  | .string text? => text?
  | _ => none

/-- The items of an array. -/
def toList? : Json → Option (List Json)
  | .array items => some items
  | _ => none

/-- The signed 64-bit integer of a document. -/
def toInt64? : Json → Option Int64
  | .number n =>
    match n.toInt? with
    | some i =>
      if Int64.minValue.toInt ≤ i ∧ i ≤ Int64.maxValue.toInt then some (Int64.ofInt i) else none
    | none => none
  | _ => none

/-- The unsigned 64-bit integer of a document. -/
def toUInt64? : Json → Option UInt64
  | .number n =>
    match n.toInt? with
    | some i => if 0 ≤ i ∧ i.toNat < UInt64.size then some (UInt64.ofNat i.toNat) else none
    | none => none
  | _ => none

/-- Reads an optional document: `null` for none, else by the given reader. -/
def toOption? (read : Json → Option α) : Json → Option (Option α)
  | .null => some none
  | j => (read j).map some

end Json

end SessionSync
