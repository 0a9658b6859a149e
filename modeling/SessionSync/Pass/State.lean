import SessionSync.Account.Catalog

/-!
# The state of a pass

What a pass has learned so far. A new pass starts from nothing under a number of its own; only what
is learned for that number is recorded, and it stays readable after the pass until the next reset.
-/

namespace SessionSync

/-- Whether the credentials of an account work. -/
inductive Validity
  /-- A token was given and the user-info endpoint took it. -/
  | valid
  /-- One of the two failed. -/
  | invalid
  deriving Repr, DecidableEq

/-- What is known about the session and the credentials. -/
structure PassState where
  /-- The number of the pass that the contents belong to. -/
  passId : Nat := 0
  /-- Whether that pass is in flight. -/
  started : Bool := false
  /-- Whether the session has been read. -/
  sessionRead : Bool := false
  /-- The accounts of the session, in order. -/
  session : List AccountId := []
  /-- Whether all credentials have been checked. -/
  tokensChecked : Bool := false
  /-- The accounts whose credentials work. -/
  valid : AccountSet := Catalog.empty
  /-- The accounts whose credentials do not work. -/
  invalid : AccountSet := Catalog.empty
  deriving Repr, DecidableEq

namespace PassState

/-- The empty state under a number, with no pass in flight. -/
def idle (passId : Nat) : PassState :=
  { passId }

/-- The empty state of a pass in flight. -/
def begin (passId : Nat) : PassState :=
  { passId, started := true }

/-- Records the accounts of the session. -/
def setSession (s : PassState) (accounts : List AccountId) : PassState :=
  { s with session := accounts, sessionRead := true }

/-- Records whether the credentials of an account work, in place of what was recorded before. -/
def record (s : PassState) (a : AccountId) : Validity → PassState
  | .valid => { s with valid := s.valid.add a, invalid := s.invalid.erase a }
  | .invalid => { s with invalid := s.invalid.add a, valid := s.valid.erase a }

/-- Whether everything is known that a plan needs. -/
def isReady (s : PassState) : Bool :=
  s.sessionRead && s.tokensChecked

end PassState

end SessionSync
