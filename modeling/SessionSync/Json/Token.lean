import SessionSync.Json.Basic

/-!
# JSON tokens

The tokens of a JSON text. `Scan` says where in a token a reader stands, `Scan.step` takes it over
one character, and `tokens?` folds that over a whole text.
-/

namespace SessionSync.Json

/-! ## Tokens -/

/-- A token of a JSON text. -/
inductive Token
  /-- The bracket that opens an array. -/
  | openArray
  /-- The bracket that closes an array. -/
  | closeArray
  /-- The brace that opens an object. -/
  | openObject
  /-- The brace that closes an object. -/
  | closeObject
  /-- The comma between items. -/
  | comma
  /-- The colon between a key and its value. -/
  | colon
  /-- The literal `null`. -/
  | null
  /-- The literals `true` and `false`. -/
  | bool (b : Bool)
  /-- A number. -/
  | number (n : Numeral)
  /-- A string; it has no text when an unpaired surrogate escape stands in it. -/
  | string (text? : Option String)
  deriving Repr, DecidableEq

/-! ## Strings -/

/-- One element of a string as written. -/
inductive StringUnit
  /-- A character, written plainly or by a short escape. -/
  | char (c : Char)
  /-- A code unit of 16 bits, written in hexadecimal. -/
  | code (n : Nat)
  deriving Repr, DecidableEq

/-- Whether a code unit is the first half of a surrogate pair. -/
def isHighSurrogate (n : Nat) : Bool :=
  0xD800 ≤ n && n ≤ 0xDBFF

/-- Whether a code unit is the second half of a surrogate pair. -/
def isLowSurrogate (n : Nat) : Bool :=
  0xDC00 ≤ n && n ≤ 0xDFFF

/-- The character that a surrogate pair stands for. -/
def surrogatePair (high low : Nat) : Char :=
  Char.ofNat (0x10000 + (high - 0xD800) * 0x400 + (low - 0xDC00))

/-- The text of a sequence of units. Both halves of a surrogate pair must be escapes, and neither
may stand alone. -/
def unitsText? : List StringUnit → Option (List Char)
  | [] => some []
  | .char c :: rest => (unitsText? rest).map (c :: ·)
  | [.code n] => if isHighSurrogate n || isLowSurrogate n then none else some [Char.ofNat n]
  | .code n :: .char c :: rest =>
    if isHighSurrogate n || isLowSurrogate n then none
    else (unitsText? rest).map fun s => Char.ofNat n :: c :: s
  | .code n :: .code m :: rest =>
    if isHighSurrogate n then
      if isLowSurrogate m then (unitsText? rest).map (surrogatePair n m :: ·) else none
    else if isLowSurrogate n then none
    else (unitsText? (.code m :: rest)).map (Char.ofNat n :: ·)

/-- The token of a string, given its units last first. -/
def stringToken (done : List StringUnit) : Token :=
  .string ((unitsText? done.reverse).map String.ofList)

/-- The character that a one-letter escape stands for. -/
def shortEscape? : Char → Option Char
  | '"' => some '"'
  | '\\' => some '\\'
  | '/' => some '/'
  | 'b' => some '\x08'
  | 'f' => some '\x0C'
  | 'n' => some '\n'
  | 'r' => some '\r'
  | 't' => some '\t'
  | _ => none

/-- The value of a hexadecimal digit. -/
def hexValue? (c : Char) : Option Nat :=
  if '0' ≤ c ∧ c ≤ '9' then some (c.toNat - '0'.toNat)
  else if 'a' ≤ c ∧ c ≤ 'f' then some (c.toNat - 'a'.toNat + 10)
  else if 'A' ≤ c ∧ c ≤ 'F' then some (c.toNat - 'A'.toNat + 10)
  else none

/-! ## Numbers -/

/-- Where in a number a reader stands. -/
inductive NumeralPart
  /-- After the minus sign: a digit is due. -/
  | sign
  /-- After a leading zero, which no digit may follow. -/
  | zero
  /-- Among the digits before the point. -/
  | whole
  /-- After the point: a digit is due. -/
  | point
  /-- Among the digits after the point. -/
  | fraction
  /-- After the letter of the power: a sign or a digit is due. -/
  | mark
  /-- After the sign of the power: a digit is due. -/
  | markSign
  /-- Among the digits of the power. -/
  | power
  deriving Repr, DecidableEq

/-- Whether a number may end here. -/
def NumeralPart.complete : NumeralPart → Bool
  | .zero | .whole | .fraction | .power => true
  | .sign | .point | .mark | .markSign => false

/-- Reads one more character of a number; `none` when the number does not go on with it. -/
def NumeralPart.next (part : NumeralPart) (n : Numeral) (c : Char) :
    Option (NumeralPart × Numeral) :=
  let toWhole := { n with whole := n.whole ++ [c] }
  let toFraction := { n with fraction := n.fraction ++ [c] }
  let toPower := { n with power := n.power.map fun p => (p.1, p.2 ++ [c]) }
  match part with
  | .sign =>
    if c = '0' then some (.zero, toWhole) else if c.isDigit then some (.whole, toWhole) else none
  | .zero | .whole =>
    if c.isDigit && part = .whole then some (.whole, toWhole)
    else if c = '.' then some (.point, n)
    else if c = 'e' ∨ c = 'E' then some (.mark, n)
    else none
  | .point => if c.isDigit then some (.fraction, toFraction) else none
  | .fraction =>
    if c.isDigit then some (.fraction, toFraction)
    else if c = 'e' ∨ c = 'E' then some (.mark, n)
    else none
  | .mark =>
    if c = '+' then some (.markSign, { n with power := some (false, []) })
    else if c = '-' then some (.markSign, { n with power := some (true, []) })
    else if c.isDigit then some (.power, { n with power := some (false, [c]) })
    else none
  | .markSign | .power => if c.isDigit then some (.power, toPower) else none

/-! ## Scanning -/

/-- Where in a text a reader stands. -/
inductive Scan
  /-- Between two tokens. -/
  | between
  /-- In a literal, with the letters that are still due and the token they complete. -/
  | literal (due : List Char) (token : Token)
  /-- In a number, with what has been read of it. -/
  | numeral (part : NumeralPart) (n : Numeral)
  /-- In a string, with its units last first. -/
  | string (done : List StringUnit)
  /-- After a backslash in a string. -/
  | escape (done : List StringUnit)
  /-- In a hexadecimal escape, with the number of digits still due and the value so far. -/
  | hex (done : List StringUnit) (due : Nat) (value : Nat)
  deriving Repr

/-- Whether a character may stand between tokens. -/
def isSpace (c : Char) : Bool :=
  c = ' ' || c = '\t' || c = '\n' || c = '\r'

/-- Reads a character where a token may start: the tokens it completes, and where the reader stands
after it. -/
def Scan.start (c : Char) : Option (List Token × Scan) :=
  if isSpace c then some ([], .between)
  else match c with
    | '[' => some ([.openArray], .between)
    | ']' => some ([.closeArray], .between)
    | '\x7b' => some ([.openObject], .between)
    | '\x7d' => some ([.closeObject], .between)
    | ',' => some ([.comma], .between)
    | ':' => some ([.colon], .between)
    | '"' => some ([], .string [])
    | 'n' => some ([], .literal ['u', 'l', 'l'] .null)
    | 't' => some ([], .literal ['r', 'u', 'e'] (.bool true))
    | 'f' => some ([], .literal ['a', 'l', 's', 'e'] (.bool false))
    | '-' => some ([], .numeral .sign ⟨true, [], [], none⟩)
    | '0' => some ([], .numeral .zero ⟨false, ['0'], [], none⟩)
    | _ => if c.isDigit then some ([], .numeral .whole ⟨false, [c], [], none⟩) else none

/-- Reads one character: the tokens it completes, and where the reader stands after it. A number
ends at the first character that does not belong to it. -/
def Scan.step : Scan → Char → Option (List Token × Scan)
  | .between, c => start c
  | .literal [] _, _ => none
  | .literal [d] token, c => if c = d then some ([token], .between) else none
  | .literal (d :: due) token, c => if c = d then some ([], .literal due token) else none
  | .numeral part n, c =>
    match part.next n c with
    | some (part', n') => some ([], .numeral part' n')
    | none =>
      if part.complete then
        match start c with
        | some (tokens, scan) => some (.number n :: tokens, scan)
        | none => none
      else none
  | .string done, c =>
    if c = '"' then some ([stringToken done], .between)
    else if c = '\\' then some ([], .escape done)
    else if c.toNat < 0x20 then none
    else some ([], .string (.char c :: done))
  | .escape done, c =>
    if c = 'u' then some ([], .hex done 4 0)
    else (shortEscape? c).map fun d => ([], .string (.char d :: done))
  | .hex done due value, c =>
    match hexValue? c with
    | some d =>
      let value' := value * 16 + d
      if due ≤ 1 then some ([], .string (.code value' :: done))
      else some ([], .hex done (due - 1) value')
    | none => none

/-- The tokens that the end of the text completes; `none` when it breaks a token off. -/
def Scan.finish : Scan → Option (List Token)
  | .between => some []
  | .numeral part n => if part.complete then some [.number n] else none
  | _ => none

/-- The tokens of a text, the reader standing as given. -/
def tokensFrom : Scan → List Char → Option (List Token)
  | scan, [] => scan.finish
  | scan, c :: rest =>
    match scan.step c with
    | some (tokens, scan') => (tokensFrom scan' rest).map (tokens ++ ·)
    | none => none

/-- The tokens of a text. -/
def tokens? (s : List Char) : Option (List Token) :=
  tokensFrom .between s

end SessionSync.Json
