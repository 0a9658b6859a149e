/-!
# Failures of the services

What can go wrong when an access token is asked for (`TokenError`), when the token endpoint is asked
to refresh one (`RefreshError`), and when the web session is read or changed (`CallError`), each
with its message.
-/

namespace SessionSync

/-! ## Access tokens -/

/-- Why no access token was given for an account. -/
inductive TokenError
  /-- The account has no usable credentials. -/
  | invalidCredentials
  /-- The token endpoint could not be reached. -/
  | connectionFailed (detail : String)
  /-- The token endpoint answered, but not with a token. -/
  | serviceUnavailable (detail : String)
  /-- The request was given up. -/
  | canceled
  deriving Repr, DecidableEq

/-- The message of a failed request for an access token. -/
def TokenError.message : TokenError → String
  | .invalidCredentials => "invalid credentials"
  | .connectionFailed detail => s!"connection failed: {detail}"
  | .serviceUnavailable detail => s!"service unavailable: {detail}"
  | .canceled => "request canceled"

/-- Why the token endpoint gave no new token. -/
inductive RefreshError
  /-- The request got no answer. -/
  | network (detail : String)
  /-- The endpoint refused with a status and a body. -/
  | rejected (status : Nat) (body : String)
  /-- The answer could not be read. -/
  | unreadable (detail : String)
  deriving Repr, DecidableEq

namespace RefreshError

/-- The message of a failed refresh. -/
def message : RefreshError → String
  | .network detail => s!"refresh request failed: {detail}"
  | .rejected status body => s!"token endpoint rejected the request ({status}): {body}"
  | .unreadable detail => s!"refresh data parsing failed: {detail}"

/-- What a failed refresh means to the one who asked for an access token: the statuses 400 and 401
say that the refresh token is of no use, all others that the endpoint did not work. -/
def toTokenError : RefreshError → TokenError
  | .network detail => .connectionFailed detail
  | .rejected status body =>
    if status = 400 ∨ status = 401 then .invalidCredentials
    else .serviceUnavailable s!"{status}: {body}"
  | .unreadable detail => .serviceUnavailable detail

end RefreshError

/-! ## The web session -/

/-- Why a call to the web session failed. -/
inductive CallError
  /-- The call got no answer. -/
  | network (detail : String)
  /-- The answer had a status other than success. -/
  | status (code : Nat) (body : String)
  /-- The answer could not be read. -/
  | malformed (detail : String)
  deriving Repr, DecidableEq

/-- The message of a failed call. -/
def CallError.message : CallError → String
  | .network detail => s!"request failed: {detail}"
  | .status code _ => s!"unexpected HTTP status {code}"
  | .malformed detail => s!"malformed response: {detail}"

/-- What the user-info endpoint says about the owner of an access token. -/
structure TokenOwner where
  /-- The identifier of the user. -/
  id : String
  /-- The email, if it is disclosed. -/
  email : Option String
  /-- The display name, if it is disclosed. -/
  name : Option String
  deriving Repr, DecidableEq

end SessionSync
