import SessionSync.Account.Id

/-!
# The profile

The profile is signed in with at most one account, the primary. Signing in and out is announced,
also when the same account signs in again; signing out when nobody is signed in is not.
-/

namespace SessionSync

/-- What is announced about the primary account. -/
inductive ProfileEvent
  /-- The account has signed in. -/
  | signedIn (account : AccountId)
  /-- The account has signed out. -/
  | signedOut (account : AccountId)
  deriving Repr, DecidableEq

/-- The profile, with its primary account if somebody is signed in. -/
structure Profile where
  /-- The account. -/
  primary : Option AccountId
  deriving Repr, DecidableEq

namespace Profile

/-- How many announcements are kept for a subscriber. -/
def announcementsKept : Nat := 16

/-- Whether somebody is signed in. -/
def isSignedIn (p : Profile) : Bool :=
  p.primary.isSome

/-- An account signs in, in place of any other. -/
def signIn (_ : Profile) (a : AccountId) : Profile × List ProfileEvent :=
  (⟨some a⟩, [.signedIn a])

/-- The primary account signs out. -/
def signOut (p : Profile) : Profile × List ProfileEvent :=
  (⟨none⟩, match p.primary with | some a => [.signedOut a] | none => [])

end Profile

end SessionSync
