import SessionSync.Text.Utf8

/-!
# Form encoding

The body of a request that carries named values: the fields in order with `&` between them, each a
name and a value with `=` in between. A space is written `+`; letters, digits and `*-._` stand for
themselves; every other byte of the UTF-8 form is written `%` with two hexadecimal digits.
-/

namespace SessionSync.Http

/-- A digit in hexadecimal, in upper case. -/
def upperHexDigit (n : Nat) : Char :=
  if n < 10 then Char.ofNat ('0'.toNat + n) else Char.ofNat ('A'.toNat + (n - 10))

/-- Whether a byte stands for itself in a form. -/
def isFormByte (b : UInt8) : Bool :=
  let c := Char.ofNat b.toNat
  c.isAlphanum || c = '*' || c = '-' || c = '.' || c = '_'

/-- The form of one byte. -/
def formByte (b : UInt8) : List Char :=
  if isFormByte b then [Char.ofNat b.toNat]
  else if b = 0x20 then ['+']
  else ['%', upperHexDigit (b.toNat / 16), upperHexDigit (b.toNat % 16)]

/-- The form of a name or a value. -/
def formText (s : String) : List Char :=
  (Text.Utf8.encode s.toList).flatMap formByte

/-- The form of several fields. -/
def formBody (fields : List (String × String)) : String :=
  String.ofList <|
    ['&'].intercalate (fields.map fun f => formText f.1 ++ '=' :: formText f.2)

end SessionSync.Http
