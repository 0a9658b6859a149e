import SessionSync.Config.Basic
import SessionSync.Http.Cookie
import SessionSync.Http.Form
import SessionSync.Session.AccountList
import SessionSync.Store.AccessToken

/-!
# Calls over HTTP

What is sent to the session and to the token endpoint, and what their answers mean. A call is a
request and a way to read the reply; `Client.exchange` sends the request with the cookies of the
session and keeps those that the reply sets.
-/

namespace SessionSync.Http

/-! ## Requests and replies -/

/-- A request. -/
structure HttpRequest where
  /-- The method. -/
  method : String
  /-- The address. -/
  url : String
  /-- The access token that the request carries. -/
  bearer : Option String := none
  /-- The named values that the request carries. -/
  form : Option (List (String × String)) := none
  deriving Repr, DecidableEq

/-- What comes back for a request. -/
inductive HttpReply
  /-- Nobody takes the request. -/
  | refused
  /-- The connection ends without an answer. -/
  | dropped
  /-- An answer with its status, the cookies it sets and its body. -/
  | answered (status : Nat) (cookies : List String) (body : List UInt8)
  deriving Repr, DecidableEq

/-- A request as it goes over the line. -/
structure Sent where
  /-- The method. -/
  method : String
  /-- The address. -/
  url : String
  /-- The header that carries the access token. -/
  authorization : Option String
  /-- The header that carries the cookies. -/
  cookie : Option String
  /-- The header that tells what the body is. -/
  contentType : Option String
  /-- The body. -/
  body : String
  deriving Repr, DecidableEq

/-- Whether a text can stand in a header: it has no control characters other than tabs. -/
def isHeaderText (s : String) : Bool :=
  s.toList.all fun c => c = '\t' || (0x20 ≤ c.toNat && c ≠ '\x7f')

/-- The request as it goes over the line with the cookies of a jar, unless its access token cannot
stand in a header. -/
def HttpRequest.toSent? (r : HttpRequest) (jar : CookieJar) : Option Sent :=
  if r.bearer.all isHeaderText then
    some {
      method := r.method
      url := r.url
      authorization := r.bearer.map fun token => "Bearer " ++ token
      cookie := jar.header?
      contentType := r.form.map fun _ => "application/x-www-form-urlencoded"
      body := match r.form with | some fields => formBody fields | none => "" }
  else none

/-- One exchange: the reply to a request and the cookies afterwards. `line` answers what is sent. -/
def exchange (jar : CookieJar) (line : Sent → HttpReply) (r : HttpRequest) :
    HttpReply × CookieJar :=
  match r.toSent? jar with
  | none => (.refused, jar)
  | some sent =>
    match line sent with
    | .answered status cookies body =>
      (.answered status cookies body, cookies.foldl CookieJar.set jar)
    | reply => (reply, jar)

/-! ## Reading replies -/

/-- Whether a status says that the request succeeded. -/
def isSuccess (status : Nat) : Bool :=
  200 ≤ status && status < 300

/-- The text of a body: a byte order mark is passed over, and what is not UTF-8 is replaced. -/
def bodyText (body : List UInt8) : String :=
  String.ofList (Text.Utf8.decodeLossy (skipMark body))

/-- The JSON document of a body. -/
def bodyJson? (body : List UInt8) : Option Json :=
  (Text.Utf8.decode? body).bind Json.parse?

/-- The body of a reply that says that the request succeeded. -/
def HttpReply.body : HttpReply → Except CallError (List UInt8)
  | .refused => .error (.network "connection refused")
  | .dropped => .error (.network "connection closed")
  | .answered status _ body =>
    if isSuccess status then .ok body else .error (.status status (bodyText body))

/-! ## The calls -/

/-- Lists the accounts of the session. -/
def listAccounts (e : Endpoints) : HttpRequest :=
  { method := "GET", url := e.listAccounts }

/-- Asks for the owner of an access token. -/
def userInfo (e : Endpoints) (token : String) : HttpRequest :=
  { method := "GET", url := e.userInfo, bearer := some token }

/-- Adds the owner of an access token to the session. -/
def mergeSession (e : Endpoints) (token : String) : HttpRequest :=
  { method := "POST", url := e.mergeSession, bearer := some token }

/-- Signs every account out of the session. -/
def logout (e : Endpoints) : HttpRequest :=
  { method := "GET", url := e.logout }

/-- Asks a token endpoint for an access token. -/
def refresh (url : String) (client : ClientIdentity) (refreshToken : String) : HttpRequest :=
  { method := "POST"
    url
    form := some [("client_id", client.id), ("client_secret", client.secret),
      ("refresh_token", refreshToken), ("grant_type", "refresh_token")] }

/-- The text that a call brings. -/
def readText (r : HttpReply) : Except CallError String :=
  r.body.map bodyText

/-- What the user-info endpoint says, in JSON. -/
def userInfoOfJson? (j : Json) : Option TokenOwner := do
  match ← j.slots? ["id", "email", "name"] with
  | [id, email, name] =>
    some {
      id := ← Json.required Json.toText? id
      email := ← Json.optional Json.toText? email
      name := ← Json.optional Json.toText? name }
  | _ => none

/-- What is wrong with a body that cannot be read. -/
def undecodable : String := "error decoding response body"

/-- What the user-info endpoint says. -/
def readUserInfo (r : HttpReply) : Except CallError TokenOwner :=
  match r.body with
  | .error e => .error e
  | .ok body =>
    match (bodyJson? body).bind userInfoOfJson? with
    | some info => .ok info
    | none => .error (.malformed undecodable)

/-- Whether a call succeeded of which nothing else is wanted. -/
def readDone (r : HttpReply) : Except CallError Unit :=
  r.body.map fun _ => ()

/-- What the token endpoint gives. -/
def readGrant : HttpReply → Except RefreshError Grant
  | .refused => .error (.network "connection refused. Cannot connect to auth server.")
  | .dropped => .error (.network "connection closed")
  | .answered status _ body =>
    if isSuccess status then
      match (bodyJson? body).bind Grant.ofJson? with
      | some g => .ok g
      | none => .error (.unreadable undecodable)
    else .error (.rejected status (bodyText body))

end SessionSync.Http
