import SessionSync.Json.Basic

/-!
# Printing JSON

`Json.pretty` writes a document over several lines: two blanks for each level, one item or member a
line, `[]` and `{}` for what is empty, and no line end after the last line. Strings escape the
quotation mark, the backslash and the control characters, nothing else.
-/

namespace SessionSync

/-! ## Numbers -/

/-- The text of a numeral. -/
def Numeral.text (n : Numeral) : List Char :=
  (if n.negative then ['-'] else []) ++ n.whole
    ++ (if n.fraction = [] then [] else '.' :: n.fraction)
    ++ match n.power with
      | none => []
      | some (negative, digits) => 'e' :: (if negative then '-' :: digits else digits)

namespace Json

/-! ## Strings -/

/-- A hexadecimal digit in lower case. -/
def hexDigit (n : Nat) : Char :=
  Nat.digitChar n

/-- A character as it stands in a string. -/
def escapeChar (c : Char) : List Char :=
  match c with
  | '"' => ['\\', '"']
  | '\\' => ['\\', '\\']
  | '\x08' => ['\\', 'b']
  | '\x0C' => ['\\', 'f']
  | '\n' => ['\\', 'n']
  | '\r' => ['\\', 'r']
  | '\t' => ['\\', 't']
  | _ =>
    if c.toNat < 0x20 then ['\\', 'u', '0', '0', hexDigit (c.toNat / 16), hexDigit (c.toNat % 16)]
    else [c]

/-- A text as a string literal. -/
def quote (s : List Char) : List Char :=
  '"' :: s.flatMap escapeChar ++ ['"']

/-! ## Documents -/

/-- The start of a line at a level. -/
def newLine (level : Nat) : List Char :=
  '\n' :: List.replicate (2 * level) ' '

mutual

/-- A document, standing at the given level. -/
def prettyAt (level : Nat) : Json → List Char
  | .null => ['n', 'u', 'l', 'l']
  | .bool true => ['t', 'r', 'u', 'e']
  | .bool false => ['f', 'a', 'l', 's', 'e']
  | .number n => n.text
  | .string text? => quote (text?.getD "").toList
  | .array [] => ['[', ']']
  | .array (j :: rest) =>
    '[' :: newLine (level + 1) ++ prettyAt (level + 1) j ++ prettyItems (level + 1) rest
      ++ newLine level ++ [']']
  | .object [] => ['\x7b', '\x7d']
  | .object ((key, j) :: rest) =>
    '\x7b' :: newLine (level + 1) ++ quote (key.getD "").toList ++ [':', ' ']
      ++ prettyAt (level + 1) j ++ prettyMembers (level + 1) rest ++ newLine level ++ ['\x7d']

/-- The items of an array after the first. -/
def prettyItems (level : Nat) : List Json → List Char
  | [] => []
  | j :: rest => ',' :: newLine level ++ prettyAt level j ++ prettyItems level rest

/-- The members of an object after the first. -/
def prettyMembers (level : Nat) : List (Option String × Json) → List Char
  | [] => []
  | (key, j) :: rest =>
    ',' :: newLine level ++ quote (key.getD "").toList ++ [':', ' '] ++ prettyAt level j
      ++ prettyMembers level rest

end

/-- A document as text. -/
def pretty (j : Json) : List Char :=
  prettyAt 0 j

end Json

end SessionSync
