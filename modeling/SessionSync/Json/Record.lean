import SessionSync.Json.Parser

/-!
# Records in JSON

A record with named fields is spelled as an object, in any order and with members of other names in
between, or as an array of its fields in order, from which fields at the end may be missing.
`Json.slots?` brings both to one form, a slot for each field; `required`, `optional` and
`withDefault` then read a slot.
-/

namespace SessionSync.Json

/-! ## Slots -/

/-- The values that the members of an object give to the fields with the given names. A field given
twice and a key without text are refused; members of other names are passed over. -/
def memberSlots? (names : List String) : List (Option String × Json) → Option (List (Option Json))
  | [] => some (names.map fun _ => none)
  | (none, _) :: _ => none
  | (some key, value) :: rest => do
    let slots ← memberSlots? names rest
    match names.idxOf? key with
    | none => some slots
    | some i => if (slots.getD i none).isSome then none else some (slots.set i (some value))

/-- The values that the items of an array give to the fields in order. More items than fields are
refused. -/
def itemSlots? (names : List String) (items : List Json) : Option (List (Option Json)) :=
  if items.length ≤ names.length then
    some (items.map some ++ List.replicate (names.length - items.length) none)
  else none

/-- The values that a document gives to the fields with the given names, `none` for a field it
leaves out. -/
def slots? (names : List String) : Json → Option (List (Option Json))
  | .object members => memberSlots? names members
  | .array items => itemSlots? names items
  | _ => none

/-! ## Reading a slot -/

/-- Reads a field that must be given. -/
def required (read : Json → Option α) (slot : Option Json) : Option α :=
  slot.bind read

/-- Reads a field that has a default. -/
def withDefault (default : α) (read : Json → Option α) : Option Json → Option α
  | none => some default
  | some j => read j

/-- Reads a field that may be left out or be `null`. -/
def optional (read : Json → Option α) : Option Json → Option (Option α)
  | none => some none
  | some j => toOption? read j

end SessionSync.Json
