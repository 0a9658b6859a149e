/-!
# UTF-8

Characters as bytes and back. `Utf8.encode` writes a text; `Utf8.units` reads bytes as a sequence of
characters and of places where no character could be read. From it come the two readers:
`Utf8.decode?` refuses bytes with such a place, and `Utf8.decodeLossy` puts U+FFFD there.
-/

namespace SessionSync.Text.Utf8

/-! ## Writing -/

/-- The bytes of one character. -/
def encodeChar (c : Char) : List UInt8 :=
  let n := c.toNat
  if n < 0x80 then [n.toUInt8]
  else if n < 0x800 then [(0xC0 + n / 0x40).toUInt8, (0x80 + n % 0x40).toUInt8]
  else if n < 0x10000 then
    [(0xE0 + n / 0x1000).toUInt8, (0x80 + n / 0x40 % 0x40).toUInt8, (0x80 + n % 0x40).toUInt8]
  else
    [(0xF0 + n / 0x40000).toUInt8, (0x80 + n / 0x1000 % 0x40).toUInt8,
     (0x80 + n / 0x40 % 0x40).toUInt8, (0x80 + n % 0x40).toUInt8]

/-- The bytes of a text. -/
def encode (s : List Char) : List UInt8 :=
  s.flatMap encodeChar

/-! ## Reading -/

/-- What has been read of a character that is not complete yet. -/
structure Partial where
  /-- How many bytes are still due. -/
  due : Nat
  /-- The bits read so far. -/
  bits : Nat
  /-- The least value that the next byte may have. -/
  least : Nat
  /-- The greatest value that the next byte may have. -/
  most : Nat

/-- What a first byte says: a complete character, the start of a longer one, or neither. -/
inductive Lead
  /-- A character of one byte. -/
  | single (c : Char)
  /-- The start of a longer character. -/
  | longer (p : Partial)
  /-- A byte that starts no character. -/
  | invalid

/-- Reads a byte where a character starts. The bounds on the second byte exclude overlong forms,
surrogates and values above U+10FFFF. -/
def lead (b : UInt8) : Lead :=
  let n := b.toNat
  if n < 0x80 then .single (Char.ofNat n)
  else if n < 0xC2 then .invalid
  else if n < 0xE0 then .longer ⟨1, n - 0xC0, 0x80, 0xBF⟩
  else if n = 0xE0 then .longer ⟨2, 0, 0xA0, 0xBF⟩
  else if n = 0xED then .longer ⟨2, 0xD, 0x80, 0x9F⟩
  else if n < 0xF0 then .longer ⟨2, n - 0xE0, 0x80, 0xBF⟩
  else if n = 0xF0 then .longer ⟨3, 0, 0x90, 0xBF⟩
  else if n < 0xF4 then .longer ⟨3, n - 0xF0, 0x80, 0xBF⟩
  else if n = 0xF4 then .longer ⟨3, 4, 0x80, 0x8F⟩
  else .invalid

/-- Reads bytes, the given character being under way. A character that breaks off counts as one
unreadable place, and the byte that broke it is read again as a first byte. -/
def unitsFrom : Option Partial → List UInt8 → List (Option Char)
  | none, [] => []
  | some _, [] => [none]
  | none, b :: rest =>
    match lead b with
    | .single c => some c :: unitsFrom none rest
    | .longer p => unitsFrom (some p) rest
    | .invalid => none :: unitsFrom none rest
  | some p, b :: rest =>
    if p.least ≤ b.toNat ∧ b.toNat ≤ p.most then
      let bits := p.bits * 0x40 + (b.toNat - 0x80)
      if p.due ≤ 1 then some (Char.ofNat bits) :: unitsFrom none rest
      else unitsFrom (some ⟨p.due - 1, bits, 0x80, 0xBF⟩) rest
    else
      none ::
        match lead b with
        | .single c => some c :: unitsFrom none rest
        | .longer q => unitsFrom (some q) rest
        | .invalid => none :: unitsFrom none rest

/-- The characters of a byte sequence, `none` standing for each place that cannot be read. -/
def units (bytes : List UInt8) : List (Option Char) :=
  unitsFrom none bytes

/-- The text of well-formed bytes. -/
def decode? (bytes : List UInt8) : Option (List Char) :=
  (units bytes).mapM id

/-- The text of any bytes, U+FFFD standing for each place that cannot be read. -/
def decodeLossy (bytes : List UInt8) : List Char :=
  (units bytes).map (·.getD '\uFFFD')

end SessionSync.Text.Utf8
