import SessionSync.Account.Catalog

/-!
# What a pass does to the session

A pass compares the accounts of the session, in order, with the accounts that hold valid credentials
and those that hold invalid ones. `plan` lists the actions that bring the two together: the session
is to be led by the primary account and to contain every valid account, and an account that only the
session knows is to be adopted.
-/

namespace SessionSync

/-- A corrective action. -/
inductive Action
  /-- Add the account to the session. -/
  | merge (account : AccountId)
  /-- Ask for credentials of the account at this place of the session. -/
  | adopt (account : AccountId) (place : Nat)
  /-- Sign every account out of the session. -/
  | logoutAll
  deriving Repr, DecidableEq

/-- Why no plan can be made. -/
inductive PlanError
  /-- The session is led by another account and the primary could not be merged again. -/
  | primaryNotValid (primary : AccountId)
  deriving Repr, DecidableEq

/-- The message of a plan that could not be made. -/
def PlanError.message : PlanError → String
  | .primaryNotValid primary =>
    s!"session must be rebuilt but primary account {primary.text} is not a valid chrome account"

/-- Merges the accounts that satisfy a test, the primary first and the others in ascending order. -/
def mergesOf (primary : AccountId) (valid : AccountSet) (wanted : AccountId → Bool) : List Action :=
  ((if valid.contains primary then [primary] else [])
      ++ valid.accounts.filter (· ≠ primary)).filter wanted |>.map .merge

/-- Adopts the accounts of the session that hold no credentials. -/
def adoptionsOf (session : List AccountId) (valid invalid : AccountSet) : List Action :=
  session.zipIdx.filterMap fun entry =>
    if valid.contains entry.1 || invalid.contains entry.1 then none
    else some (.adopt entry.1 entry.2)

/-- Whether a session is led by an account other than the primary. -/
def ledByOther (primary : AccountId) (session : List AccountId) : Bool :=
  match session.head? with
  | some first => first ≠ primary
  | none => false

/-- The actions that bring the session and the credentials together. A session that another account
leads is rebuilt from the valid accounts; any other is completed. -/
def plan (primary : AccountId) (session : List AccountId) (valid invalid : AccountSet) :
    Except PlanError (List Action) :=
  if ledByOther primary session then
    if valid.contains primary then
      .ok (.logoutAll :: mergesOf primary valid fun _ => true)
    else .error (.primaryNotValid primary)
  else
    .ok (mergesOf primary valid (fun a => !session.contains a) ++ adoptionsOf session valid invalid)

/-! ## The effect of actions -/

/-- A session and the accounts it is compared with. -/
structure SessionView where
  /-- The accounts of the session, in order. -/
  session : List AccountId
  /-- The accounts that hold credentials. -/
  held : AccountSet

/-- What an action does once it is carried out. -/
def SessionView.apply (s : SessionView) : Action → SessionView
  | .merge a => { s with session := if s.session.contains a then s.session else s.session ++ [a] }
  | .adopt a _ => { s with held := s.held.add a }
  | .logoutAll => { s with session := [] }

/-- What actions do one after the other. -/
def SessionView.applyAll (s : SessionView) (actions : List Action) : SessionView :=
  actions.foldl SessionView.apply s

end SessionSync
