import SessionSync.Text.Pieces

/-!
# Addresses in URLs

Which texts are IPv4 and IPv6 addresses in the host part of a URL. An IPv4 address has one to four
numbers, each decimal, octal after `0` or hexadecimal after `0x`, of which the last fills the bytes
that are left. An IPv6 address has eight groups of hexadecimal digits; `::` stands for one or more
groups of zeros, and the last two groups may be written as an IPv4 address in decimals.
-/

namespace SessionSync.Url

/-- Whether a character is a digit in hexadecimal. -/
def isHexDigit (c : Char) : Bool :=
  c.isDigit || ('a' ≤ c && c ≤ 'f') || ('A' ≤ c && c ≤ 'F')

/-- The value of a digit in hexadecimal. -/
def hexDigitValue (c : Char) : Nat :=
  if c.isDigit then c.toNat - '0'.toNat
  else if 'a' ≤ c ∧ c ≤ 'f' then c.toNat - 'a'.toNat + 10
  else c.toNat - 'A'.toNat + 10

/-- The number that digits write in a base. -/
def numberIn (base : Nat) (digits : List Char) : Nat :=
  digits.foldl (fun n c => n * base + hexDigitValue c) 0

/-! ## IPv4 -/

/-- Reads one number of an IPv4 address. The sign `0x` alone, and `0` followed by nothing, write
zero. -/
def ipv4Number? : List Char → Option Nat
  | [] => none
  | '0' :: 'x' :: digits => if digits.all isHexDigit then some (numberIn 16 digits) else none
  | '0' :: 'X' :: digits => if digits.all isHexDigit then some (numberIn 16 digits) else none
  | '0' :: d :: digits =>
    if (d :: digits).all fun c => '0' ≤ c && c ≤ '7' then some (numberIn 8 (d :: digits)) else none
  | digits => if digits.all Char.isDigit then some (numberIn 10 digits) else none

/-- The labels of a domain, without an empty one at the end. -/
def domainLabels (domain : List Char) : List (List Char) :=
  let labels := Text.pieces '.' domain
  if labels.getLast? = some [] ∧ 1 < labels.length then labels.dropLast else labels

/-- Whether a domain is to be read as an IPv4 address: its last label is a number or has only
digits. -/
def endsInNumber (domain : List Char) : Bool :=
  match (domainLabels domain).getLast? with
  | some last => (!last.isEmpty && last.all Char.isDigit) || (ipv4Number? last).isSome
  | none => false

/-- Whether a domain is an IPv4 address. -/
def isIpv4 (domain : List Char) : Bool :=
  let labels := domainLabels domain
  labels.length ≤ 4 &&
    match labels.mapM ipv4Number? with
    | some numbers =>
      numbers.dropLast.all (· < 256) &&
        numbers.getLast?.all (· < Nat.pow 256 (5 - numbers.length))
    | none => false

/-! ## IPv6 -/

/-- Whether a text is a group of one to four hexadecimal digits. -/
def isIpv6Group (s : List Char) : Bool :=
  !s.isEmpty && s.length ≤ 4 && s.all isHexDigit

/-- Whether a text is a number from 0 to 255 without needless zeros. -/
def isByteNumber (s : List Char) : Bool :=
  !s.isEmpty && s.length ≤ 3 && s.all Char.isDigit && numberIn 10 s < 256 &&
    (s.length = 1 || s.head? != some '0')

/-- Whether a text is an IPv4 address as it may end an IPv6 address. -/
def isDottedQuad (s : List Char) : Bool :=
  let parts := Text.pieces '.' s
  parts.length = 4 && parts.all isByteNumber

/-- How many groups of an IPv6 address a text between colons writes, and `none` if it does not.
Only the last text of an address may write two, as an IPv4 address. -/
def ipv6Width? (isLast : Bool) (s : List Char) : Option Nat :=
  if isIpv6Group s then some 1
  else if isLast && isDottedQuad s then some 2
  else none

/-- How many groups the texts between colons write. -/
def ipv6Groups? (atEnd : Bool) : List (List Char) → Option Nat
  | [] => some 0
  | [s] => ipv6Width? atEnd s
  | s :: rest => do some ((← ipv6Width? false s) + (← ipv6Groups? atEnd rest))

/-- The texts between the colons of a part of an address; an empty part has none. -/
def ipv6Parts (s : List Char) : List (List Char) :=
  if s.isEmpty then [] else Text.pieces ':' s

/-- The parts of a text before and after its first `::`. -/
def cutAtDoubleColon : List Char → Option (List Char × List Char)
  | ':' :: ':' :: rest => some ([], rest)
  | c :: rest => (cutAtDoubleColon rest).map fun p => (c :: p.1, p.2)
  | [] => none

/-- Whether a text is an IPv6 address. -/
def isIpv6 (s : List Char) : Bool :=
  match cutAtDoubleColon s with
  | none => ipv6Groups? true (ipv6Parts s) = some 8
  | some (front, back) =>
    match ipv6Groups? false (ipv6Parts front), ipv6Groups? true (ipv6Parts back) with
    | some m, some n => m + n ≤ 7
    | _, _ => false

end SessionSync.Url
