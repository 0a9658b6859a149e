import SessionSync.Account.Id
import SessionSync.Json.Plain
import SessionSync.Json.Printer
import SessionSync.Service.Failure

/-!
# The account list of the session

The session endpoint answers with a JSON array whose second item is the array of signed-in accounts;
an entry that is an array with a string as its fourth item names an account by that string.
`accountsOfBody` reads the body, passing over entries of any other shape, empty names and
repetitions.
-/

namespace SessionSync

/-! ## Failures -/

/-- Why the account list of the session is not known. -/
inductive ListingError
  /-- The call failed. -/
  | transport (e : CallError)
  /-- The body is not a JSON document. -/
  | notJson
  /-- The body is a JSON document without a list of accounts. -/
  | noList
  deriving Repr, DecidableEq

namespace ListingError

/-- The message about a body that cannot be read. -/
def malformedMessage (detail : String) : String :=
  s!"malformed account list: {detail}"

/-- The message of a failed reading of the account list. What is wrong with a text that is not JSON
is not told. -/
def message : ListingError → String
  | .transport e => e.message
  | .notJson => malformedMessage "<json>"
  | .noList => malformedMessage "expected a list of accounts at index 1"

end ListingError

/-! ## The body of an answer -/

/-- The entry of an email in the account list. -/
def entryOfEmail (email : String) : Json :=
  .array [.ofString "b", .ofInt 0, .ofString "n", .ofString email, .ofString "p", .ofInt 0,
    .ofInt 0, .ofInt 0]

/-- The body of an answer that lists emails. -/
def sessionBody (emails : List String) : String :=
  String.ofList (Json.array [.ofString "foo", .array (emails.map entryOfEmail)]).pretty

/-! ## Reading -/

/-- The account that an entry of the list names. -/
def entryAccount? (entry : Json) : Option AccountId :=
  match entry.toList?.bind (·[3]?) with
  | some item => item.toText?.map AccountId.ofString
  | none => none

/-- The accounts that the entries of the list name, in order, without empty ones and with the first
of each kept. -/
def entriesAccounts (entries : List Json) : List AccountId :=
  ((entries.filterMap entryAccount?).filter fun a => !a.isEmpty).eraseDups

/-- The entries of the account list in a document. -/
def accountEntries? (document : Json) : Option (List Json) :=
  (document.toList?.bind (·[1]?)).bind Json.toList?

/-- The accounts that the body of an answer lists. -/
def accountsOfBody (body : String) : Except ListingError (List AccountId) :=
  match Json.parsePlain? body.toList with
  | none => .error .notJson
  | some document =>
    match accountEntries? document with
    | none => .error .noList
    | some entries => .ok (entriesAccounts entries)

/-- The accounts that an answered call lists. -/
def accountsOfAnswer : Except CallError String → Except ListingError (List AccountId)
  | .ok body => accountsOfBody body
  | .error e => .error (.transport e)

end SessionSync
