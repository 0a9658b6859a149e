import SessionSync.Text.WhiteSpace
import SessionSync.Text.CaseTable

/-!
# Lower case

Full Unicode lower-casing of a text: `lowercase` maps each character on its own, except that a
capital sigma becomes the final form `ς` where a word ends with it, and that `İ` becomes two
characters.
-/

namespace SessionSync.Text

/-! ## Single characters -/

/-- Whether a run contains a code point. -/
def CaseRun.covers (r : CaseRun) (n : Nat) : Bool :=
  r.first ≤ n && n ≤ r.last && (n - r.first) % r.step == 0

/-- The lower-case form of a character that has one of a single character; any other character is
its own. -/
def lowerChar (c : Char) : Char :=
  match lowerRuns.find? (·.covers c.toNat) with
  | some r => Char.ofNat (c.toNat + r.shift).toNat
  | none => c

/-! ## The two forms of sigma -/

/-- The capital sigma, the only letter whose lower-case form depends on its neighbours. -/
def capitalSigma : Char := 'Σ'

/-- Whether the first character that is not case-ignorable is a letter with case. -/
def startsWithCased (s : List Char) : Bool :=
  match s.find? fun c => !inRanges c.toNat caseIgnorableRanges with
  | some c => inRanges c.toNat casedRanges
  | none => false

/-- The lower-case sigma between the text `before` it, nearest character first, and the text
`after` it: the final form when a word ends here. -/
def lowerSigma (before after : List Char) : Char :=
  if startsWithCased before && !startsWithCased after then 'ς' else 'σ'

/-! ## Texts -/

/-- The lower-case form of one character in its context. -/
def lowerAt (before : List Char) (c : Char) (after : List Char) : List Char :=
  if c = capitalSigma then [lowerSigma before after]
  else if c = 'İ' then ['i', '\u0307']
  else [lowerChar c]

/-- The lower-case form of a text that follows `before`, given nearest character first. -/
def lowercaseAfter (before : List Char) : List Char → List Char
  | [] => []
  | c :: rest => lowerAt before c rest ++ lowercaseAfter (c :: before) rest

/-- The lower-case form of a text. -/
def lowercase (s : List Char) : List Char :=
  lowercaseAfter [] s

end SessionSync.Text
