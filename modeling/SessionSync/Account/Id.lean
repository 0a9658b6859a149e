import SessionSync.Text.Lowercase

/-!
# Account identifiers

An account is named by its email. `AccountId.ofString` brings every spelling of an email to one
form, so that the same account compares equal wherever it was read.
-/

namespace SessionSync

/-- The identifier of an account. -/
structure AccountId where
  /-- The email in normal form. -/
  text : String
  deriving Repr, DecidableEq, Inhabited

namespace AccountId

/-! ## Normal form -/

/-- The normal form of an email: no white space at the ends, and all in lower case. -/
def normalize (raw : String) : String :=
  String.ofList (Text.lowercase (Text.trim raw.toList))

/-- The account that an email names. -/
def ofString (raw : String) : AccountId :=
  ⟨normalize raw⟩

/-- Whether an identifier is in normal form. -/
def Normal (a : AccountId) : Prop :=
  ofString a.text = a

/-- Whether an identifier names nobody. -/
def isEmpty (a : AccountId) : Bool :=
  a.text = ""

/-! ## Order -/

/-- Accounts are ordered by the code points of their identifiers. -/
instance : LT AccountId :=
  ⟨fun a b => a.text < b.text⟩

instance (a b : AccountId) : Decidable (a < b) :=
  inferInstanceAs (Decidable (a.text < b.text))

theorem lt_irrefl (a : AccountId) : ¬ a < a :=
  String.lt_irrefl a.text

theorem lt_trans {a b c : AccountId} (h₁ : a < b) (h₂ : b < c) : a < c :=
  String.lt_trans h₁ h₂

theorem lt_asymm {a b : AccountId} (h : a < b) : ¬ b < a :=
  String.lt_asymm h

/-- Of two different accounts one comes first. -/
theorem lt_of_not_lt {a b : AccountId} (h₁ : ¬ a < b) (h₂ : a ≠ b) : b < a := by
  rcases a with ⟨s⟩
  rcases b with ⟨t⟩
  by_cases h : t < s
  · exact h
  · exact absurd (String.le_antisymm (String.not_lt.1 h) (String.not_lt.1 h₁)) (by simpa using h₂)

end AccountId

/-! ## Masks -/

/-- An email as it may stand in a log: three characters of the part before the first `@` and two of
the part after it; of a text without `@`, its first five characters. -/
def emailMask (email : String) : String :=
  let s := email.toList
  let masked :=
    match s.dropWhile (· ≠ '@') with
    | _ :: domain =>
      (s.takeWhile (· ≠ '@')).take 3 ++ "***@".toList ++ domain.take 2 ++ "***".toList
    | [] => s.take 5 ++ "***".toList
  String.ofList masked

end SessionSync
