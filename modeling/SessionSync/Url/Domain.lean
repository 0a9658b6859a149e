import SessionSync.Text.Lowercase
import SessionSync.Text.Pieces
import SessionSync.Url.DomainTable
import SessionSync.Url.Punycode

/-!
# Domains

Which texts are domains. Characters that look alike are replaced, so that a domain may be written in
capitals, in wide letters or with other dots; labels with characters beyond ASCII must be in order,
as must those that write such a label in ASCII behind `xn--`.
-/

namespace SessionSync.Url

/-- Whether a character cannot stand in a domain, among those of ASCII. -/
def isForbidden (c : Char) : Bool :=
  c.toNat ≤ 0x20 || c = '\x7f' || "#%/:<>?@[\\]^|".toList.contains c

/-- Whether a character cannot stand in a domain, among those beyond ASCII. -/
def isDisallowed (c : Char) : Bool :=
  Text.inRanges c.toNat disallowedRanges

/-- Whether a character is beyond ASCII. -/
def isBeyondAscii (c : Char) : Bool :=
  0x80 ≤ c.toNat

/-! ## Replacement -/

/-- The ASCII character that replaces a character. -/
def AsciiRun.replace? (r : AsciiRun) (n : Nat) : Option Char :=
  if r.first ≤ n ∧ n ≤ r.last then some (Char.ofNat (r.replacement + r.step * (n - r.first)))
  else none

/-- What replaces a character beyond ASCII. -/
def replaceBeyondAscii (c : Char) : List Char :=
  if Text.inRanges c.toNat ignoredRanges then []
  else match asciiRuns.findSome? (·.replace? c.toNat) with
    | some a => [a]
    | none =>
      match asciiTexts.find? (·.1 = c.toNat) with
      | some (_, text) => text.map Char.ofNat
      | none => if c = 'ς' then [c] else [Text.lowerChar c]

/-- What replaces a character. -/
def replaceChar (c : Char) : List Char :=
  if isBeyondAscii c then replaceBeyondAscii c else [c.toLower]

/-! ## Labels -/

/-- Whether a character is written from right to left. -/
def isRightToLeft (c : Char) : Bool :=
  Text.inRanges c.toNat rightToLeftRanges

/-- The letter that a joiner meets on one side of it, past the signs across which letters join; the
text on that side is given nearest character first. -/
def joined? (side : List Char) : Option Char :=
  side.find? fun c => !Text.inRanges c.toNat transparentRanges

/-- Whether a letter joins the one that follows. -/
def joinsNext (c : Char) : Bool :=
  Text.inRanges c.toNat dualJoiningRanges || Text.inRanges c.toNat leftJoiningRanges

/-- Whether a letter joins the one before. -/
def joinsPrevious (c : Char) : Bool :=
  Text.inRanges c.toNat dualJoiningRanges || Text.inRanges c.toNat rightJoiningRanges

/-- Whether a joiner, or a sign that keeps letters apart, may stand between the text `before` it,
nearest character first, and the text `after` it: behind a sign that asks for one, and one that
keeps letters apart also where they would join. -/
def isJoinerInPlace (before : List Char) (joiner : Char) (after : List Char) : Bool :=
  (before.head?.any fun c => Text.inRanges c.toNat viramaRanges) ||
    (joiner = '\u200c' && (joined? before).any joinsNext && (joined? after).any joinsPrevious)

/-- Whether the joiners of a text that follows `before`, given nearest character first, are in
place. -/
def joinersInOrder (before : List Char) : List Char → Bool
  | [] => true
  | c :: rest =>
    (if c = '\u200c' || c = '\u200d' then isJoinerInPlace before c rest else true) &&
      joinersInOrder (c :: before) rest

/-- Whether a character is a digit that stands among right-to-left characters. -/
def isArabicNumber (c : Char) : Bool :=
  Text.inRanges c.toNat arabicNumberRanges

/-- Whether a label makes the directions of writing matter in its domain. -/
def hasDirections (label : List Char) : Bool :=
  label.any fun c => isRightToLeft c || isArabicNumber c

/-- The last character of a label apart from combining marks. -/
def lastBase? (label : List Char) : Option Char :=
  (label.reverse.dropWhile fun c => Text.inRanges c.toNat markRanges).head?

/-- Whether the directions of writing go together in a label of a domain with right-to-left
characters: a label that begins with one has no letters of the other direction, ends with one or
with a digit, and does not mix digits; any other begins with a letter, ends with a letter or a
digit, and has none. -/
def directionsInOrder (label : List Char) : Bool :=
  match label with
  | [] => true
  | first :: _ =>
    if isRightToLeft first then
      !label.any Char.isAlpha && !(label.any Char.isDigit && label.any isArabicNumber) &&
        (lastBase? label).any fun c => isRightToLeft c || c.isDigit || isArabicNumber c
    else
      (first.isAlpha || isBeyondAscii first) && !hasDirections label &&
        (lastBase? label).any fun c => c.isAlphanum || isBeyondAscii c

/-- Whether a label with characters beyond ASCII is in order. -/
def isLabel (label : List Char) : Bool :=
  !label.any isDisallowed && !label.any isForbidden && joinersInOrder [] label &&
    !(label.head?.any fun c => Text.inRanges c.toNat markRanges)

/-- The text of a label: of one behind `xn--` what that writes, if it needed to be written so. -/
def labelText? (label : List Char) : Option (List Char) :=
  match label with
  | 'x' :: 'n' :: '-' :: '-' :: code =>
    match Punycode.decode? code with
    | some text =>
      if text.any isBeyondAscii && text.flatMap replaceChar = text then some text else none
    | none => none
  | _ => some label

/-- Whether all labels of a domain are in order. -/
def labelsInOrder (labels : List (List Char)) : Bool :=
  match labels.mapM labelText? with
  | none => false
  | some texts =>
    texts.all isLabel &&
      (!texts.any hasDirections || texts.all directionsInOrder)

/-- The form of a domain after replacement; none if it is not in order. -/
def domain? (s : List Char) : Option (List Char) :=
  let replaced := s.flatMap replaceChar
  let labels := Text.pieces '.' replaced
  if s.any isDisallowed || replaced.any isForbidden || !labelsInOrder labels then none
  else some replaced

end SessionSync.Url
